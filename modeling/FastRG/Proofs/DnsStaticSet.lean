/-
Static DNS records put in force as a set.

Whatever long names have left behind in the table, the passes of `applyRecordSet` bring it to the
set (`apply_set_iff`): every name of the table that the set does not have goes, of a name that is
there twice one stays (`count_stale`), and then each record of the set is written over what was
there before (`Filling.inForce`).  That the slots suffice is counting: a name that stays is the
name of a record of the set, and that record needs no new slot (`room_of_wanted`).
-/
import FastRG.Lib.LastWins
import FastRG.Proofs.DnsStaticTable
import Mathlib.Data.List.Count
import Mathlib.Data.List.Perm.Subperm

namespace FastRG

/-- What a record of a set says of a name: its address and its time to live. -/
def DnsRecordConfig.tells (name : List (BitVec 8)) (w : DnsRecordConfig) :
    Option (BitVec 32 × BitVec 32) :=
  if w.domain.map toLower = name then
    (inetPton w.ip).map fun ip => (ip, if w.ttl = 0 then 3600 else w.ttl)
  else none

namespace DnsStaticCounted

variable {t t' : DnsStaticCounted} {domain name : List (BitVec 8)} {ip ttl : BitVec 32}

/-! ### The names that are not in the set -/

/-- A record of the set has this name. -/
def wanted (ws : List DnsRecordConfig) (name : List (BitVec 8)) : Bool :=
  ws.any fun w => w.domain.map toLower == name

/-- Of the places that meet a condition, one is left out if need be: the first. -/
theorem countP_zipIdx_first {α : Type} (P : α → Bool) (b : Bool) (l : List α) (k : Nat) :
    (l.zipIdx k).countP (fun x => P x.1 && !(b && ((l.findIdx? P).map (· + k) == some x.2))) =
      l.countP P - (if b && l.any P then 1 else 0) := by
  induction l generalizing k with
  | nil => simp
  | cons a rest ih =>
      rw [List.zipIdx_cons, List.countP_cons, List.countP_cons, List.findIdx?_cons, List.any_cons]
      by_cases ha : P a = true
      · have hrest : (rest.zipIdx (k + 1)).countP
            (fun x => P x.1 && !(b && ((some 0).map (· + k) == some x.2))) = rest.countP P := by
          have hfst : rest.countP P = (rest.zipIdx (k + 1)).countP (P ∘ Prod.fst) := by
            rw [← List.countP_map, List.zipIdx_map_fst]
          rw [hfst]
          refine List.countP_congr ?_
          intro x hx
          have hlt := (List.mem_zipIdx hx).1
          have hne : ¬ (k = x.2) := by omega
          simp [hne]
        rw [if_pos ha, hrest, ha]
        cases b with
        | true => simp
        | false => simp
      · have hmap : ((rest.findIdx? P).map (· + 1)).map (· + k) =
            (rest.findIdx? P).map (· + (k + 1)) := by
          rw [Option.map_map]
          congr 1
          funext i
          exact Nat.add_right_comm i 1 k
        rw [if_neg ha, hmap, ih (k + 1)]
        simp [ha]

theorem isFor_congr {a b : List (BitVec 8)} (h : a.map toLower = b.map toLower) :
    DnsStatic.isFor a = DnsStatic.isFor b := by
  funext r
  unfold DnsStatic.isFor domainEq
  rw [h]

/-- A slot with a name is referred to by the set if the set has the name and the slot is the first
that has it. -/
theorem referred_iff (ht : t.Stored) (ws : List DnsRecordConfig) {r : DnsStaticRecord} {i : Nat}
    (hslot : t.records[i]? = some (some r)) :
    ws.any (fun w => t.records.findIdx? (DnsStatic.isFor w.domain) = some i) =
      (wanted ws r.domain && (t.records.findIdx? (DnsStatic.isFor r.domain) == some i)) := by
  have hlower := ht.lower r.domain
    (List.mem_map_of_mem (mem_active.mpr (List.mem_of_getElem? hslot)))
  have hcongr {w : DnsRecordConfig} (hw : w.domain.map toLower = r.domain) :
      DnsStatic.isFor w.domain = DnsStatic.isFor r.domain := isFor_congr (hw.trans hlower.symm)
  rw [Bool.eq_iff_iff]
  unfold wanted
  simp only [List.any_eq_true, Bool.and_eq_true, beq_iff_eq, decide_eq_true_eq]
  refine ⟨?_, ?_⟩
  · intro h
    obtain ⟨w, hw, hfirst⟩ := h
    obtain ⟨hi, hfor, -⟩ := List.findIdx?_eq_some_iff_getElem.mp hfirst
    have hr : t.records[i] = some r := by
      rw [List.getElem?_eq_getElem hi] at hslot
      exact Option.some.inj hslot
    rw [hr, DnsStatic.isFor_some, hlower] at hfor
    exact ⟨⟨w, hw, hfor.symm⟩, by rw [← hcongr hfor.symm]; exact hfirst⟩
  · intro h
    obtain ⟨⟨w, hw, hdomain⟩, hfirst⟩ := h
    exact ⟨w, hw, by rw [hcongr hdomain]; exact hfirst⟩

/-- A name that goes is in the table. -/
theorem mem_of_stale {ws : List DnsRecordConfig} (h : name ∈ Node.staleDomains ws t.records) :
    name ∈ t.names := by
  obtain ⟨⟨r, i⟩, hx, hg⟩ := List.mem_filterMap.mp h
  have hslot := List.mem_zipIdx_iff_getElem?.mp hx
  cases r with
  | none => cases hg
  | some r =>
      simp only at hg
      split at hg
      · cases hg
      · rw [← Option.some.inj hg]
        exact List.mem_map_of_mem (mem_active.mpr (List.mem_of_getElem? hslot))

theorem count_stale_of_lower (ht : t.Stored) (ws : List DnsRecordConfig)
    (hname : name.map toLower = name) :
    (Node.staleDomains ws t.records).count name =
      t.names.count name - (if wanted ws name ∧ name ∈ t.names then 1 else 0) := by
  have hfor (r : DnsStaticRecord) (hr : some r ∈ t.records) :
      DnsStatic.isFor name (some r) = (r.domain == name) := by
    have hlower := ht.lower r.domain (List.mem_map_of_mem (mem_active.mpr hr))
    simp [DnsStatic.isFor, domainEq, hlower, hname]
  have hcount : t.names.count name = t.records.countP (DnsStatic.isFor name) := by
    unfold names active
    rw [List.count_eq_countP, List.countP_map, List.countP_filterMap]
    refine List.countP_congr ?_
    intro x hx
    cases x with
    | none => simp
    | some r => simp [hfor r hx]
  have hany : (t.records.any (DnsStatic.isFor name) = true) ↔ name ∈ t.names := by
    rw [← List.count_pos_iff, hcount, List.countP_pos_iff, List.any_eq_true]
  have hstale : (Node.staleDomains ws t.records).count name = t.records.zipIdx.countP
      (fun x => DnsStatic.isFor name x.1 && !(wanted ws name &&
        ((t.records.findIdx? (DnsStatic.isFor name)).map (· + 0) == some x.2))) := by
    unfold Node.staleDomains
    rw [List.count_eq_countP, List.countP_filterMap]
    refine List.countP_congr ?_
    intro x hx
    obtain ⟨r, i⟩ := x
    have hslot := List.mem_zipIdx_iff_getElem?.mp hx
    cases r with
    | none => simp
    | some r =>
        simp only [referred_iff ht ws hslot, hfor r (List.mem_of_getElem? hslot)]
        by_cases hname' : r.domain = name
        · have hzero : (t.records.findIdx? (DnsStatic.isFor name)).map (· + 0) =
              t.records.findIdx? (DnsStatic.isFor name) := Option.map_id'
          rw [hname', hzero]
          cases wanted ws name && (t.records.findIdx? (DnsStatic.isFor name) == some i) with
          | true => simp
          | false => simp
        · cases wanted ws r.domain &&
              (t.records.findIdx? (DnsStatic.isFor r.domain) == some i) with
          | true => simp [hname']
          | false => simp [hname']
  rw [hstale, countP_zipIdx_first, hcount]
  congr 1
  simp only [Bool.and_eq_true, hany]

/-- A name goes as often as it is in the table, but once less if the set has it. -/
theorem count_stale (ht : t.Stored) (ws : List DnsRecordConfig) (name : List (BitVec 8)) :
    (Node.staleDomains ws t.records).count name =
      t.names.count name - (if wanted ws name ∧ name ∈ t.names then 1 else 0) := by
  by_cases hmem : name ∈ t.names
  · exact count_stale_of_lower ht ws (ht.lower name hmem)
  · rw [List.count_eq_zero_of_not_mem hmem,
      List.count_eq_zero_of_not_mem fun h => hmem (mem_of_stale h)]
    exact (Nat.zero_sub _).symm

/-- The second pass: each name goes as often as it is stale. -/
theorem foldl_removeStale (stale : List (List (BitVec 8))) (st : Status) (ht : t.Stored)
    (hstale : ∀ n, stale.count n ≤ t.names.count n) :
    (stale.foldl removeStale (st, t)).1 = st ∧ (stale.foldl removeStale (st, t)).2.Stored ∧
      ∀ n, (stale.foldl removeStale (st, t)).2.names.count n = t.names.count n - stale.count n := by
  induction stale generalizing t with
  | nil => exact ⟨rfl, ht, fun n => (Nat.sub_zero _).symm⟩
  | cons d rest ih =>
      have hd : d ∈ t.names := by
        refine List.count_pos_iff.mp ?_
        have h := hstale d
        rw [List.count_cons_self] at h
        omega
      have hlower := ht.lower d hd
      have hremove := names_remove ht d
      rw [hlower] at hremove
      rcases hremove with ⟨-, hstatus, hperm, -, -⟩ | ⟨habsent, -⟩
      · have hcount (n : List (BitVec 8)) : t.names.count n =
            (t.remove d).2.names.count n + if d == n then 1 else 0 := by
          rw [hperm.count_eq, List.count_cons]
        obtain ⟨hst, hstored, hrest⟩ := ih (ht.remove d) fun n => by
          have h := hstale n
          rw [List.count_cons, hcount n] at h
          omega
        rw [List.foldl_cons, removeStale_eq]
        simp only [hstatus, if_true]
        refine ⟨hst, hstored, ?_⟩
        intro n
        rw [hrest n, List.count_cons, hcount n]
        omega
      · exact absurd hd habsent

/-- After the second pass the table has each name of the set that it had, once, and no other. -/
theorem stale_removed (ws : List DnsRecordConfig) (st : Status) (ht : t.Stored) :
    ∃ t', (Node.staleDomains ws t.records).foldl removeStale (st, t) = (st, t') ∧ t'.Stored ∧
      t'.names.Nodup ∧ (∀ n ∈ t'.names, wanted ws n = true) ∧
      (t.names.Nodup → (∀ n ∈ t.names, wanted ws n = true) → t' = t) := by
  have hcount := count_stale ht ws
  obtain ⟨hst, hstored, hnames⟩ := foldl_removeStale (Node.staleDomains ws t.records) st ht
    fun n => by rw [hcount n]; exact Nat.sub_le _ _
  -- What is left of a name is what its going once less leaves.
  have hleft (n : List (BitVec 8)) :
      ((Node.staleDomains ws t.records).foldl removeStale (st, t)).2.names.count n =
        if wanted ws n ∧ n ∈ t.names then 1 else 0 := by
    rw [hnames n, hcount n]
    by_cases h : wanted ws n ∧ n ∈ t.names
    · have hpos := List.count_pos_iff.mpr h.2
      rw [if_pos h]
      omega
    · rw [if_neg h]
      omega
  refine ⟨_, Prod.ext hst rfl, hstored, ?_, ?_, ?_⟩
  · refine List.nodup_iff_count_le_one.mpr ?_
    intro n
    rw [hleft n]
    split
    · exact Nat.le_refl 1
    · exact Nat.zero_le 1
  · intro n hn
    have hpos := List.count_pos_iff.mpr hn
    rw [hleft n] at hpos
    by_contra hwanted
    rw [if_neg fun h => hwanted h.1] at hpos
    omega
  · intro hnodup hall
    have hnil : Node.staleDomains ws t.records = [] := by
      refine List.eq_nil_iff_forall_not_mem.mpr ?_
      intro n hn
      have hmem := mem_of_stale hn
      have hone := List.nodup_iff_count_le_one.mp hnodup n
      have hpos := List.count_pos_iff.mpr hn
      rw [hcount n, if_pos ⟨hall n hmem, hmem⟩] at hpos
      omega
    rw [hnil]
    rfl

/-! ### The records of the set -/

/-- A record carried out. -/
def put (t : DnsStaticCounted) (w : DnsRecordConfig) : DnsStaticCounted := (t.applyRecord w).2

/-- The records that need a new slot. -/
def missing (t : DnsStaticCounted) (ws : List DnsRecordConfig) : Nat :=
  ws.countP fun w => decide (w.domain.map toLower ∉ t.names)

theorem put_eq {w : DnsRecordConfig} (hip : inetPton w.ip = some ip) :
    t.put w = (t.add w.domain ip (if w.ttl = 0 then 3600 else w.ttl)).2 ∧
      (t.applyRecord w).1 = (t.add w.domain ip (if w.ttl = 0 then 3600 else w.ttl)).1 := by
  unfold put applyRecord
  rw [hip]
  exact ⟨rfl, rfl⟩

/-- A record finds its slot while there is room for the records that are left. -/
theorem put_room {w : DnsRecordConfig} {rest : List DnsRecordConfig} (ht : t.Stored)
    (hip : inetPton w.ip = some ip)
    (hroom : t.names.length + t.missing (w :: rest) ≤ dnsStaticMaxRecords) :
    (t.applyRecord w).1 = .success ∧ (t.put w).Stored ∧
      (t.put w).names.length + (t.put w).missing rest ≤ dnsStaticMaxRecords := by
  obtain ⟨hput, hstatus⟩ := put_eq hip (t := t)
  have hadded := namesAdded ht (ttl_ne_zero w.ttl) w.domain ip
  have hstored : (t.put w).Stored := ht.applyRecord w
  unfold missing at hroom
  rw [List.countP_cons] at hroom
  rw [hstatus]
  rw [← hput] at hadded
  generalize (t.add w.domain ip (if w.ttl = 0 then 3600 else w.ttl)).1 = status at hadded ⊢
  cases hadded with
  | renewed hmem hnames hcount hslots =>
      refine ⟨rfl, hstored, ?_⟩
      unfold missing
      rw [hnames]
      omega
  | placed hmem hnames hcount hlength =>
      refine ⟨rfl, hstored, ?_⟩
      have hfewer : (t.put w).missing rest ≤
          rest.countP fun w => decide (w.domain.map toLower ∉ t.names) := by
        refine List.countP_mono_left ?_
        intro v hv hmissing
        refine decide_eq_true fun hmem => ?_
        exact of_decide_eq_true hmissing (hnames.mem_iff.mpr (List.mem_cons_of_mem _ hmem))
      rw [if_pos (decide_eq_true hmem)] at hroom
      rw [hnames.length_eq, List.length_cons]
      omega
  | full hmem heq hlength =>
      rw [if_pos (decide_eq_true hmem), hlength, ht.slots] at hroom
      omega

/-- The third pass carries out every record. -/
theorem foldl_setRecord (ws : List DnsRecordConfig) (st : Status) (ht : t.Stored)
    (hread : ∀ w ∈ ws, ∃ ip, inetPton w.ip = some ip)
    (hroom : t.names.length + t.missing ws ≤ dnsStaticMaxRecords) :
    ws.foldl setRecord (st, t) = (st, ws.foldl put t) := by
  induction ws generalizing t with
  | nil => rfl
  | cons w rest ih =>
      obtain ⟨ip, hip⟩ := hread w List.mem_cons_self
      obtain ⟨hstatus, hstored, hroom'⟩ := put_room ht hip hroom
      rw [List.foldl_cons, List.foldl_cons, setRecord_eq]
      simp only [hstatus, if_true]
      exact ih hstored (fun v hv => hread v (List.mem_cons_of_mem _ hv)) hroom'

/-- Names that are all of the set leave room for the records that have none. -/
theorem room_of_wanted {ws : List DnsRecordConfig} (hnodup : t.names.Nodup)
    (hall : ∀ n ∈ t.names, wanted ws n = true) (hlength : ws.length ≤ dnsStaticMaxRecords) :
    t.names.length + t.missing ws ≤ dnsStaticMaxRecords := by
  have hsub : t.names ⊆ (ws.filter fun w => decide (w.domain.map toLower ∈ t.names)).map
      fun w => w.domain.map toLower := by
    intro n hn
    obtain ⟨w, hw, hdomain⟩ := List.any_eq_true.mp (hall n hn)
    have hdomain : w.domain.map toLower = n := by simpa using hdomain
    refine List.mem_map.mpr ⟨w, List.mem_filter.mpr ⟨hw, ?_⟩, hdomain⟩
    rw [hdomain]
    exact decide_eq_true hn
  have hle := (List.subperm_of_subset hnodup hsub).length_le
  rw [List.length_map, ← List.countP_eq_length_filter] at hle
  have hsplit := List.length_eq_countP_add_countP
    (fun w : DnsRecordConfig => decide (w.domain.map toLower ∈ t.names)) (l := ws)
  simp only [decide_eq_true_eq] at hsplit
  unfold missing
  omega

/-- The address and the time to live that are in force for a name. -/
def recordAt (t : DnsStaticCounted) (name : List (BitVec 8)) : Option (BitVec 32 × BitVec 32) :=
  (DnsStatic.lookup t.records name).map fun r => (r.ipAddr, r.ttl)

theorem find?_slots (q : Option DnsStaticRecord → Bool) (pre post : DnsStaticTable)
    (x : Option DnsStaticRecord) :
    (pre ++ x :: post).find? q =
      (pre.find? q).or (if q x then some x else post.find? q) := by
  rw [List.find?_append]
  congr 1
  by_cases hx : q x = true
  · rw [if_pos hx, List.find?_cons_of_pos hx]
  · rw [if_neg hx, List.find?_cons_of_neg hx]

/-- What is in force for a name after an addition that found a slot. -/
theorem recordAt_add (httl : ttl ≠ 0) (hshort : domain.length ≤ dnsMaxDomainLen)
    (hok : (t.add domain ip ttl).1 = .success) :
    (t.add domain ip ttl).2.recordAt name =
      if domain.map toLower = name.map toLower then some (ip, ttl) else t.recordAt name := by
  have hadded := added t domain ip httl
  generalize t.add domain ip ttl = r at hadded hok ⊢
  unfold recordAt DnsStatic.lookup
  cases hadded with
  | renewed pre post r htable hpre hr =>
      rw [htable, find?_slots, find?_slots]
      by_cases hname : domain.map toLower = name.map toLower
      · have hnone : pre.find? (DnsStatic.isFor name) = none := by
          rw [← isFor_congr hname]
          exact List.find?_eq_none.mpr (by simpa using hpre)
        have hfor : DnsStatic.isFor name (some { r with ipAddr := ip, ttl := ttl }) = true :=
          (DnsStatic.isFor_some name _).mpr (hr.trans hname)
        rw [if_pos hname, hnone, if_pos hfor]
        rfl
      · have hfor (r' : DnsStaticRecord) (hr' : r'.domain = r.domain) :
            DnsStatic.isFor name (some r') = false := by
          refine Bool.eq_false_iff.mpr fun h => hname ?_
          rw [DnsStatic.isFor_some, hr'] at h
          exact hr.symm.trans h
        rw [if_neg hname, hfor { r with ipAddr := ip, ttl := ttl } rfl, hfor r rfl]
        simp
  | placed pre post htable hnone =>
      have hcut : domain.take dnsMaxDomainLen = domain := List.take_of_length_le hshort
      have hlower := map_toLower_map_toLower domain
      rw [hcut]
      rw [htable] at hnone
      rw [htable, find?_slots, find?_slots]
      by_cases hname : domain.map toLower = name.map toLower
      · have hpre : pre.find? (DnsStatic.isFor name) = none := by
          rw [← isFor_congr hname]
          refine List.find?_eq_none.mpr ?_
          intro y hy
          rw [hnone y (List.mem_append_left _ hy)]
          exact Bool.false_ne_true
        have hfor : DnsStatic.isFor name (some ⟨domain.map toLower, ip, ttl⟩) = true :=
          (DnsStatic.isFor_some name _).mpr (hlower.trans hname)
        rw [if_pos hname, hpre, if_pos hfor]
        rfl
      · have hfor : DnsStatic.isFor name (some ⟨domain.map toLower, ip, ttl⟩) = false := by
          refine Bool.eq_false_iff.mpr fun h => hname ?_
          rw [DnsStatic.isFor_some] at h
          exact hlower.symm.trans h
        rw [if_neg hname, hfor]
        simp
  | full hnone hfull => cases hok

/-- In a table without a name twice a record is in use when it is in force for its name. -/
theorem mem_active_iff {r : DnsStaticRecord} (ht : t.Stored) (hnodup : t.names.Nodup) :
    r ∈ t.active ↔
      r.domain.map toLower = r.domain ∧ t.recordAt r.domain = some (r.ipAddr, r.ttl) := by
  have hfound {x : Option DnsStaticRecord}
      (h : t.records.find? (DnsStatic.isFor r.domain) = some x) : ∃ r', x = some r' ∧
        r' ∈ t.active ∧ r'.domain = r.domain.map toLower := by
    have hfor := List.find?_some h
    cases x with
    | none => cases hfor
    | some r' =>
        have hmem : r' ∈ t.active := mem_active.mpr (List.mem_of_find?_eq_some h)
        have hlower := ht.lower r'.domain (List.mem_map_of_mem hmem)
        rw [DnsStatic.isFor_some, hlower] at hfor
        exact ⟨r', rfl, hmem, hfor⟩
  refine ⟨?_, ?_⟩
  · intro hr
    have hlower := ht.lower r.domain (List.mem_map_of_mem hr)
    refine ⟨hlower, ?_⟩
    cases hfind : t.records.find? (DnsStatic.isFor r.domain) with
    | none =>
        have hnot := List.find?_eq_none.mp hfind (some r) (mem_active.mp hr)
        exact absurd ((DnsStatic.isFor_some r.domain r).mpr rfl) hnot
    | some x =>
        obtain ⟨r', hx, hmem, hdomain⟩ := hfound hfind
        have heq : r' = r := List.inj_on_of_nodup_map hnodup hmem hr (hdomain.trans hlower)
        unfold recordAt DnsStatic.lookup
        rw [hfind, hx, heq]
        rfl
  · intro h
    obtain ⟨hlower, hrecord⟩ := h
    unfold recordAt DnsStatic.lookup at hrecord
    cases hfind : t.records.find? (DnsStatic.isFor r.domain) with
    | none => rw [hfind] at hrecord; cases hrecord
    | some x =>
        obtain ⟨r', hx, hmem, hdomain⟩ := hfound hfind
        rw [hfind, hx] at hrecord
        have hpair := Prod.mk.inj (Option.some.inj hrecord)
        have heq : r' = r := by
          obtain ⟨domain', ip', ttl'⟩ := r'
          obtain ⟨domain, ip, ttl⟩ := r
          simp only [DnsStaticRecord.mk.injEq] at hpair hdomain hlower ⊢
          exact ⟨hdomain.trans hlower, hpair⟩
        rw [← heq]
        exact hmem

/-! ### The set in force -/

/-- The records in use are the last-wins map of a list of records, each name once, and the count
is theirs. -/
structure InForce (t : DnsStaticCounted) (ws : List DnsRecordConfig) : Prop where
  records : ∀ r, r ∈ t.active ↔
    lastWins (DnsRecordConfig.tells r.domain) ws = some (r.ipAddr, r.ttl)
  count : t.count.toNat = t.active.length
  once : t.names.Nodup

/-- What is kept while the records of a set are carried out. -/
structure Filling (ws : List DnsRecordConfig) (t : DnsStaticCounted) : Prop where
  stored : t.Stored
  once : t.names.Nodup
  wanted : ∀ n ∈ t.names, wanted ws n = true

/-- A record carried out, its name being one that a slot holds. -/
theorem Filling.put {ws : List DnsRecordConfig} {w : DnsRecordConfig} (ht : Filling ws t)
    (hlength : ws.length ≤ dnsStaticMaxRecords) (hw : w ∈ ws) (hip : inetPton w.ip = some ip)
    (hshort : w.domain.length ≤ dnsMaxDomainLen) :
    Filling ws (t.put w) ∧ ∀ n, n.map toLower = n →
      (t.put w).recordAt n = (w.tells n).or (t.recordAt n) := by
  have hroom : t.names.length + t.missing [w] ≤ dnsStaticMaxRecords := by
    have hall := room_of_wanted ht.once ht.wanted hlength
    have hle : t.missing [w] ≤ t.missing ws :=
      List.Sublist.countP_le (List.singleton_sublist.mpr hw)
    omega
  obtain ⟨hok, hstored, -⟩ := put_room ht.stored hip hroom
  obtain ⟨hput, hstatus⟩ := put_eq hip (t := t)
  rw [hstatus] at hok
  have hcut : w.domain.take dnsMaxDomainLen = w.domain := List.take_of_length_le hshort
  have hkept : (t.put w).names.Nodup ∧
      ∀ n ∈ (t.put w).names, DnsStaticCounted.wanted ws n = true := by
    have hadded := namesAdded ht.stored (ttl_ne_zero w.ttl) w.domain ip
    rw [← hput] at hadded
    generalize (t.add w.domain ip (if w.ttl = 0 then 3600 else w.ttl)).1 = status at hadded
    cases hadded with
    | renewed hmem hnames hcount hslots =>
        rw [hnames]
        exact ⟨ht.once, ht.wanted⟩
    | placed hmem hnames hcount hlength =>
        rw [hcut] at hnames
        refine ⟨hnames.nodup_iff.mpr (List.nodup_cons.mpr ⟨hmem, ht.once⟩), ?_⟩
        intro n hn
        rcases List.mem_cons.mp (hnames.mem_iff.mp hn) with hnew | hold
        · exact List.any_eq_true.mpr ⟨w, hw, beq_iff_eq.mpr hnew.symm⟩
        · exact ht.wanted n hold
    | full hmem heq hlength =>
        rw [heq]
        exact ⟨ht.once, ht.wanted⟩
  refine ⟨⟨hstored, hkept.1, hkept.2⟩, ?_⟩
  intro n hn
  rw [hput, recordAt_add (ttl_ne_zero w.ttl) hshort hok, hn]
  unfold DnsRecordConfig.tells
  rw [hip]
  by_cases hname : w.domain.map toLower = n
  · rw [if_pos hname, if_pos hname]
    rfl
  · rw [if_neg hname, if_neg hname]
    rfl

/-- A name that the set has is said something of, once its addresses can be read. -/
theorem tells_of_wanted {ws : List DnsRecordConfig}
    (hread : ∀ w ∈ ws, ∃ ip, inetPton w.ip = some ip) (h : wanted ws name = true) :
    (lastWins (DnsRecordConfig.tells name) ws).isSome = true := by
  obtain ⟨w, hw, hdomain⟩ := List.any_eq_true.mp h
  have hdomain : w.domain.map toLower = name := by simpa using hdomain
  obtain ⟨ip, hip⟩ := hread w hw
  refine lastWins_isSome_iff.mpr ⟨w, hw, ?_⟩
  unfold DnsRecordConfig.tells
  rw [if_pos hdomain, hip]
  rfl

/-- The records of a set carried out, all names being ones that a slot holds. -/
theorem Filling.inForce {ws : List DnsRecordConfig} (ht : Filling ws t)
    (hlength : ws.length ≤ dnsStaticMaxRecords)
    (hread : ∀ w ∈ ws, ∃ ip, inetPton w.ip = some ip)
    (hshort : ∀ w ∈ ws, w.domain.length ≤ dnsMaxDomainLen) :
    Filling ws (ws.foldl DnsStaticCounted.put t) ∧
      InForce (ws.foldl DnsStaticCounted.put t) ws := by
  have hfold (n : List (BitVec 8)) (hn : n.map toLower = n) :=
    foldl_lastWins (DnsRecordConfig.tells n) DnsStaticCounted.put (fun t => t.recordAt n)
      (Filling ws) ws (fun w hw t ht => by
        obtain ⟨ip, hip⟩ := hread w hw
        obtain ⟨hfilling, hview⟩ := ht.put hlength hw hip (hshort w hw)
        exact ⟨hfilling, hview n hn⟩) t ht
  have hfilling := (hfold [] rfl).1
  refine ⟨hfilling, ⟨?_, ?_, hfilling.once⟩⟩
  · intro r
    rw [mem_active_iff hfilling.stored hfilling.once]
    refine ⟨?_, ?_⟩
    · intro h
      obtain ⟨hlower, hrecord⟩ := h
      rw [(hfold r.domain hlower).2] at hrecord
      cases hlast : lastWins (DnsRecordConfig.tells r.domain) ws with
      | some v =>
          rw [hlast] at hrecord
          exact hrecord
      | none =>
          -- A name that was there before is one of the set.
          rw [hlast] at hrecord
          have hold : t.recordAt r.domain = some (r.ipAddr, r.ttl) := hrecord
          have hmem := (mem_active_iff ht.stored ht.once).mpr ⟨hlower, hold⟩
          have hsome := tells_of_wanted hread (ht.wanted r.domain (List.mem_map_of_mem hmem))
          rw [hlast] at hsome
          cases hsome
    · intro h
      obtain ⟨w, hw, htells⟩ := exists_of_lastWins h
      have hlower : r.domain.map toLower = r.domain := by
        unfold DnsRecordConfig.tells at htells
        by_cases hdomain : w.domain.map toLower = r.domain
        · rw [← hdomain, map_toLower_map_toLower]
        · rw [if_neg hdomain] at htells
          cases htells
      refine ⟨hlower, ?_⟩
      rw [(hfold r.domain hlower).2, h]
      rfl
  · have hle := names_length_le (ws.foldl DnsStaticCounted.put t)
    have hslots := hfilling.stored.slots
    have hnames : (ws.foldl DnsStaticCounted.put t).names.length =
        (ws.foldl DnsStaticCounted.put t).active.length := List.length_map _
    rw [hfilling.stored.counted, BitVec.toNat_ofNat, hnames]
    rw [hslots, hnames] at hle
    refine Nat.mod_eq_of_lt ?_
    have hmax : dnsStaticMaxRecords < 2 ^ 32 := by decide
    omega

/-! ### The set again -/

/-- The names in the slots. -/
def slotNames (t : DnsStaticCounted) : List (Option (List (BitVec 8))) :=
  t.records.map (Option.map DnsStaticRecord.domain)

theorem names_eq_slotNames (t : DnsStaticCounted) : t.names = t.slotNames.filterMap id := by
  unfold names active slotNames
  rw [List.filterMap_map, List.map_filterMap]
  rfl

/-- A record whose name is there leaves the slots with their names. -/
theorem slotNames_put {w : DnsRecordConfig} (ht : t.Stored) (hip : inetPton w.ip = some ip)
    (hmem : w.domain.map toLower ∈ t.names) :
    (t.put w).slotNames = t.slotNames ∧ (t.put w).count = t.count := by
  obtain ⟨hput, -⟩ := put_eq hip (t := t)
  have hadded := namesAdded ht (ttl_ne_zero w.ttl) w.domain ip
  rw [← hput] at hadded
  generalize (t.add w.domain ip (if w.ttl = 0 then 3600 else w.ttl)).1 = status at hadded
  cases hadded with
  | renewed hmem' hnames hcount hslots => exact ⟨hslots, hcount⟩
  | placed hmem' hnames hcount hlength => exact absurd hmem hmem'
  | full hmem' heq hlength => exact absurd hmem hmem'

theorem foldl_put_slotNames (ws : List DnsRecordConfig) (ht : t.Stored)
    (hread : ∀ w ∈ ws, ∃ ip, inetPton w.ip = some ip)
    (hmem : ∀ w ∈ ws, w.domain.map toLower ∈ t.names) :
    (ws.foldl put t).slotNames = t.slotNames ∧ (ws.foldl put t).count = t.count := by
  induction ws generalizing t with
  | nil => exact ⟨rfl, rfl⟩
  | cons w rest ih =>
      obtain ⟨ip, hip⟩ := hread w List.mem_cons_self
      obtain ⟨hslots, hcount⟩ := slotNames_put ht hip (hmem w List.mem_cons_self)
      obtain ⟨hslots', hcount'⟩ := ih (ht.applyRecord w)
        (fun v hv => hread v (List.mem_cons_of_mem _ hv)) fun v hv => by
          show v.domain.map toLower ∈ (t.put w).names
          rw [names_eq_slotNames, hslots, ← names_eq_slotNames]
          exact hmem v (List.mem_cons_of_mem _ hv)
      exact ⟨hslots'.trans hslots, hcount'.trans hcount⟩

/-- Slots with the same names, and the same records in use, are the same. -/
theorem eq_of_slotNames (hslots : t'.slotNames = t.slotNames) (hcount : t'.count = t.count)
    (hactive : ∀ r ∈ t'.active, r ∈ t.active) (hnodup : t.names.Nodup) : t' = t := by
  have hrecords : t'.records = t.records := by
    refine List.ext_getElem? ?_
    intro i
    have hi := congrArg (fun l => l[i]?) hslots
    simp only [slotNames, List.getElem?_map] at hi
    cases h' : t'.records[i]? with
    | none =>
        rw [h'] at hi
        exact (Option.map_eq_none_iff.mp hi.symm).symm
    | some x' =>
        rw [h'] at hi
        obtain ⟨x, h, hx⟩ := Option.map_eq_some_iff.mp hi.symm
        rw [h]
        congr 1
        cases x' with
        | none => exact (Option.map_eq_none_iff.mp hx).symm
        | some r' =>
            obtain ⟨r, hr, hdomain⟩ := Option.map_eq_some_iff.mp hx
            have hmem' := hactive r' (mem_active.mpr (List.mem_of_getElem? h'))
            have hmem := mem_active.mpr (List.mem_of_getElem? (hr ▸ h))
            rw [hr, List.inj_on_of_nodup_map hnodup hmem' hmem hdomain.symm]
  obtain ⟨records', count'⟩ := t'
  obtain ⟨records, count⟩ := t
  simp only [mk.injEq]
  exact ⟨hrecords, hcount⟩

/-! ### The whole call -/

/-- A set with an address that cannot be read leaves the table. -/
theorem applyRecordSet_unread {records : List DnsRecordConfig}
    (h : ∃ w ∈ records.take dnsStaticMaxRecords, inetPton w.ip = none) :
    t.applyRecordSet records = (.error, t) := by
  obtain ⟨w, hw, hip⟩ := h
  unfold applyRecordSet
  simp only
  rw [if_pos (List.any_eq_true.mpr ⟨w, hw, decide_eq_true hip⟩)]

/-- A set whose addresses can be read is carried out over what the second pass has left. -/
theorem applyRecordSet_read {records : List DnsRecordConfig} (ht : t.Stored)
    (h : ∀ w ∈ records.take dnsStaticMaxRecords, ∃ ip, inetPton w.ip = some ip) :
    ∃ t', Filling (records.take dnsStaticMaxRecords) t' ∧
      t.applyRecordSet records = (.success, (records.take dnsStaticMaxRecords).foldl put t') ∧
      (Filling (records.take dnsStaticMaxRecords) t → t' = t) := by
  have hlength : (records.take dnsStaticMaxRecords).length ≤ dnsStaticMaxRecords :=
    List.length_take_le _ _
  obtain ⟨t', hstale, hstored, hnodup, hall, hsame⟩ :=
    stale_removed (records.take dnsStaticMaxRecords) .success ht
  refine ⟨t', ⟨hstored, hnodup, hall⟩, ?_, fun hf => hsame hf.once hf.wanted⟩
  unfold applyRecordSet
  simp only
  rw [if_neg]
  · rw [hstale]
    exact foldl_setRecord _ .success hstored h (room_of_wanted hnodup hall hlength)
  · intro hany
    obtain ⟨w, hw, hip⟩ := List.any_eq_true.mp hany
    obtain ⟨ip, hip'⟩ := h w hw
    rw [of_decide_eq_true hip] at hip'
    cases hip'

/-- What applying a set of records to a table is for: the set is in force, a set that cannot be
read changes nothing, and the set once more changes nothing. -/
structure SetLaw (t : DnsStaticCounted) (records : List DnsRecordConfig) : Prop where
  inForce : (t.applyRecordSet records).1 = .success →
    (t.applyRecordSet records).2.InForce (records.take dnsStaticMaxRecords)
  unread : (∃ w ∈ records.take dnsStaticMaxRecords, inetPton w.ip = none) →
    (t.applyRecordSet records).2 = t
  again : ((t.applyRecordSet records).2.applyRecordSet records).2 = (t.applyRecordSet records).2

/-- A set of names that a slot holds is in force, and stays when it is applied once more. -/
theorem setLaw_of_short {records : List DnsRecordConfig} (ht : t.Stored)
    (hread : ∀ w ∈ records.take dnsStaticMaxRecords, ∃ ip, inetPton w.ip = some ip)
    (hshort : ∀ w ∈ records.take dnsStaticMaxRecords, w.domain.length ≤ dnsMaxDomainLen) :
    SetLaw t records := by
  have hlength : (records.take dnsStaticMaxRecords).length ≤ dnsStaticMaxRecords :=
    List.length_take_le _ _
  obtain ⟨t', hfilling', hcall, -⟩ := applyRecordSet_read ht hread
  obtain ⟨hfilling, hforce⟩ := hfilling'.inForce hlength hread hshort
  refine ⟨?_, ?_, ?_⟩
  · intro _
    rw [hcall]
    exact hforce
  · intro h
    rw [applyRecordSet_unread h]
  · rw [hcall]
    generalize (records.take dnsStaticMaxRecords).foldl put t' = t₁ at hfilling hforce
    obtain ⟨t₂, -, hcall₂, hsame⟩ := applyRecordSet_read hfilling.stored hread
    obtain ⟨-, hforce₂⟩ := hfilling.inForce hlength hread hshort
    rw [hcall₂, hsame hfilling]
    obtain ⟨hslots, hcount⟩ := foldl_put_slotNames (records.take dnsStaticMaxRecords)
      hfilling.stored hread fun w hw => by
        have hwanted : wanted (records.take dnsStaticMaxRecords) (w.domain.map toLower) = true :=
          List.any_eq_true.mpr ⟨w, hw, beq_self_eq_true _⟩
        obtain ⟨v, hv⟩ := Option.isSome_iff_exists.mp (tells_of_wanted hread hwanted)
        exact List.mem_map_of_mem ((hforce.records ⟨w.domain.map toLower, v.1, v.2⟩).mpr hv)
    refine eq_of_slotNames hslots hcount ?_ hfilling.once
    intro r hr
    exact (hforce.records r).mpr ((hforce₂.records r).mp hr)

/-- A name longer than a slot holds cannot be in force. -/
theorem not_setLaw_of_long {records : List DnsRecordConfig} (ht : t.Stored)
    (hread : ∀ w ∈ records.take dnsStaticMaxRecords, ∃ ip, inetPton w.ip = some ip)
    {w : DnsRecordConfig} (hw : w ∈ records.take dnsStaticMaxRecords)
    (hlong : dnsMaxDomainLen < w.domain.length) : ¬ SetLaw t records := by
  intro h
  obtain ⟨t', -, hcall, -⟩ := applyRecordSet_read ht hread
  have hforce := h.inForce (by rw [hcall])
  have hwanted : wanted (records.take dnsStaticMaxRecords) (w.domain.map toLower) = true :=
    List.any_eq_true.mpr ⟨w, hw, beq_self_eq_true _⟩
  obtain ⟨v, hv⟩ := Option.isSome_iff_exists.mp (tells_of_wanted hread hwanted)
  have hmem := (hforce.records ⟨w.domain.map toLower, v.1, v.2⟩).mpr hv
  have hlength := (ht.applyRecordSet records).short _ (List.mem_map_of_mem hmem)
  rw [List.length_map] at hlength
  omega

/--
**A set of static records is put in force, once its names fit.**  From every table that additions,
removals and sets have made: a set whose addresses can be read becomes the last-wins map of its
first records, each name once, with the count to match, a set with one that cannot leaves the
table, and the set applied once more changes nothing, exactly when an address cannot be read or
none of those names is longer than a slot holds.
-/
theorem apply_set_iff {ops : List DnsStaticOp}
    (h : Run DnsStaticCounted.step (fun _ _ => True) init ops t) (records : List DnsRecordConfig) :
    SetLaw t records ↔ (∃ w ∈ records.take dnsStaticMaxRecords, inetPton w.ip = none) ∨
      ∀ w ∈ records.take dnsStaticMaxRecords, w.domain.length ≤ dnsMaxDomainLen := by
  have ht := run_stored h
  by_cases hunread : ∃ w ∈ records.take dnsStaticMaxRecords, inetPton w.ip = none
  · refine ⟨fun _ => Or.inl hunread, fun _ => ⟨?_, ?_, ?_⟩⟩
    · rw [applyRecordSet_unread hunread]
      intro hok
      cases hok
    · intro _
      rw [applyRecordSet_unread hunread]
    · rw [applyRecordSet_unread hunread, applyRecordSet_unread hunread]
  have hread : ∀ w ∈ records.take dnsStaticMaxRecords, ∃ ip, inetPton w.ip = some ip := by
    intro w hw
    exact Option.ne_none_iff_exists'.mp fun hip => hunread ⟨w, hw, hip⟩
  refine ⟨?_, ?_⟩
  · intro hlaw
    refine Or.inr ?_
    intro w hw
    by_contra hlong
    exact not_setLaw_of_long ht hread hw (Nat.lt_of_not_le hlong) hlaw
  · intro hcond
    rcases hcond with hcond | hshort
    · exact absurd hcond hunread
    · exact setLaw_of_short ht hread hshort

/-- The law holds of a fresh table and a set of one record. -/
theorem apply_set_iff_one : SetLaw init [⟨asciiBytes "nas.lan", asciiBytes "10.0.0.1", 0⟩] :=
  (apply_set_iff .nil [⟨asciiBytes "nas.lan", asciiBytes "10.0.0.1", 0⟩]).mpr
    (Or.inr (by decide))

/-- A record whose name is one byte too long. -/
def longRecord : DnsRecordConfig := ⟨List.replicate 254 97, asciiBytes "10.0.0.1", 0⟩

set_option maxRecDepth 8000 in
/-- Given twice, it takes two slots with one name: what was stored is not found again. -/
theorem long_name_stored_twice :
    (init.applyRecordSet [longRecord, longRecord]).1 = .success ∧
      ¬ (init.applyRecordSet [longRecord, longRecord]).2.names.Nodup ∧
      ¬ SetLaw init [longRecord, longRecord] := by
  have htwice : (init.applyRecordSet [longRecord, longRecord]).1 = .success ∧
      ¬ (init.applyRecordSet [longRecord, longRecord]).2.names.Nodup := by decide
  exact ⟨htwice.1, htwice.2, fun h => htwice.2 (h.inForce htwice.1).once⟩

/-! ### The node's calls -/

theorem add_records (t : DnsStaticCounted) (domain : List (BitVec 8)) (ip ttl : BitVec 32) :
    DnsStatic.add t.records domain ip ttl =
      ((t.add domain ip ttl).1, (t.add domain ip ttl).2.records) := by
  unfold DnsStatic.add add
  simp only
  generalize DnsStatic.replaceFirst (DnsStatic.isFor domain) _ t.records = renewed
  generalize DnsStatic.replaceFirst Option.isNone _ t.records = placed
  cases renewed with
  | some records => rfl
  | none =>
      cases placed with
      | some records => rfl
      | none => rfl

theorem remove_records (t : DnsStaticCounted) (domain : List (BitVec 8)) :
    DnsStatic.remove t.records domain = ((t.remove domain).1, (t.remove domain).2.records) := by
  unfold DnsStatic.remove remove
  generalize DnsStatic.replaceFirst (DnsStatic.isFor domain) _ t.records = removed
  cases removed with
  | some records => rfl
  | none => rfl

/-- The subscriber of a node has these records. -/
structure Of (s : Node) (c : Nat) (t : DnsStaticCounted) : Prop where
  valid : s.isValidCcbId c = true
  records : (s.subs c).staticTable = t.records

variable {s : Node} {c : Nat}

theorem Of.setStatic (h : Of s c t) (t' : DnsStaticCounted) :
    Of (s.setStatic c t'.records) c t' := by
  refine ⟨h.valid, ?_⟩
  simp [Node.setStatic, Node.modSub]

/-- A call of the node and one on the table answer and end alike. -/
def Alike (c : Nat) (x : Status × Node) (y : Status × DnsStaticCounted) : Prop :=
  x.1 = y.1 ∧ Of x.2 c y.2

/-- `apply_dns_record` of a node is the counted one. -/
theorem Of.applyDnsRecord (h : Of s c t) (w : DnsRecordConfig) :
    Alike c (s.applyDnsRecord c w) (t.applyRecord w) := by
  unfold Node.applyDnsRecord applyRecord
  rw [if_neg (by simp [h.valid])]
  cases inetPton w.ip with
  | none => exact ⟨rfl, h⟩
  | some ip =>
      simp only
      rw [h.records, add_records]
      exact ⟨rfl, h.setStatic _⟩

/-- `remove_dns_record` of a node is the counted one. -/
theorem Of.removeDnsRecord (h : Of s c t) (domain : List (BitVec 8)) :
    Alike c (s.removeDnsRecord c domain) (t.remove domain) := by
  unfold Node.removeDnsRecord
  rw [if_neg (by simp [h.valid])]
  simp only
  rw [h.records, remove_records]
  exact ⟨rfl, h.setStatic _⟩

theorem Alike.removeStale {x : Status × Node} {y : Status × DnsStaticCounted} (h : Alike c x y)
    (domain : List (BitVec 8)) :
    Alike c (Node.removeStaleDomain c x domain) (removeStale y domain) := by
  have hcall := h.2.removeDnsRecord domain
  unfold Node.removeStaleDomain DnsStaticCounted.removeStale
  generalize x.2.removeDnsRecord c domain = a at hcall ⊢
  generalize y.2.remove domain = b at hcall ⊢
  obtain ⟨status, node⟩ := a
  obtain ⟨status', t'⟩ := b
  obtain ⟨hstatus, hof⟩ := hcall
  obtain rfl : status = status' := hstatus
  cases status with
  | success => exact ⟨h.1, hof⟩
  | error => exact ⟨rfl, hof⟩

theorem Alike.setRecord {x : Status × Node} {y : Status × DnsStaticCounted} (h : Alike c x y)
    (w : DnsRecordConfig) : Alike c (Node.setDnsRecord c x w) (setRecord y w) := by
  have hcall := h.2.applyDnsRecord w
  unfold Node.setDnsRecord DnsStaticCounted.setRecord
  simp only
  rw [h.2.records]
  generalize (DnsStatic.lookup y.2.records w.domain).any _ = here
  by_cases hhere : here = true
  · rw [if_pos hhere, if_pos hhere]
    exact h
  rw [if_neg hhere, if_neg hhere]
  generalize x.2.applyDnsRecord c w = a at hcall ⊢
  generalize y.2.applyRecord w = b at hcall ⊢
  obtain ⟨status, node⟩ := a
  obtain ⟨status', t'⟩ := b
  obtain ⟨hstatus, hof⟩ := hcall
  obtain rfl : status = status' := hstatus
  cases status with
  | success => exact ⟨h.1, hof⟩
  | error => exact ⟨rfl, hof⟩

/--
**The node applies a set as the table does.**  `apply_dns_record_set` answers, and leaves the
subscriber's records, as the counted table has it.
-/
theorem Of.applyDnsRecordSet (h : Of s c t) (records : List DnsRecordConfig) :
    Alike c (s.applyDnsRecordSet c records) (t.applyRecordSet records) := by
  unfold Node.applyDnsRecordSet applyRecordSet
  rw [if_neg (by simp [h.valid])]
  simp only
  split
  · exact ⟨rfl, h⟩
  rw [h.records]
  refine List.foldl_rel (List.foldl_rel ⟨rfl, h⟩ ?_) ?_
  · exact fun domain _ _ _ hpass => hpass.removeStale domain
  · exact fun w _ _ _ hpass => hpass.setRecord w

end DnsStaticCounted

end FastRG
