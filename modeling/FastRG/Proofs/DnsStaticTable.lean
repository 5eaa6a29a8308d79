/-
The table of static DNS records, one change at a time.

A record is found by its name in the first slot that has it.  A name is stored in lower case and
cut to what a slot holds (`Stored`), and it is looked for as it is: a name longer than that is put
in its slot but never found there again.  An addition renews the first record of its name, or
takes the first empty slot, or fails for want of one (`Added`); a removal clears the first record
of its name (`Removed`).  The count follows, from every table that came about so (`run_stored`).
-/
import FastRG.DnsStaticSet
import FastRG.Lib.Run
import FastRG.Proofs.DnsNames

namespace FastRG

namespace DnsStatic

/-! ### The first slot that meets a condition -/

variable {p : Option DnsStaticRecord → Bool} {f : Option DnsStaticRecord → Option DnsStaticRecord}
  {table table' : DnsStaticTable}

theorem replaceFirst_some (h : replaceFirst p f table = some table') : ∃ pre x post,
    table = pre ++ x :: post ∧ (∀ y ∈ pre, p y = false) ∧ p x = true ∧
      table' = pre ++ f x :: post := by
  induction table generalizing table' with
  | nil => cases h
  | cons r rest ih =>
      unfold replaceFirst at h
      by_cases hp : p r = true
      · rw [if_pos hp] at h
        exact ⟨[], r, rest, rfl, by simp, hp, (Option.some.inj h).symm⟩
      · rw [if_neg hp] at h
        obtain ⟨rest', hrest, htable⟩ := Option.map_eq_some_iff.mp h
        obtain ⟨pre, x, post, heq, hpre, hx, hpost⟩ := ih hrest
        refine ⟨r :: pre, x, post, by rw [heq]; rfl, ?_, hx, by rw [← htable, hpost]; rfl⟩
        intro y hy
        rcases List.mem_cons.mp hy with hyr | hyr
        · rw [hyr]
          simpa using hp
        · exact hpre y hyr

theorem replaceFirst_none (h : replaceFirst p f table = none) : ∀ y ∈ table, p y = false := by
  induction table with
  | nil => simp
  | cons r rest ih =>
      unfold replaceFirst at h
      by_cases hp : p r = true
      · rw [if_pos hp] at h
        cases h
      · rw [if_neg hp] at h
        intro y hy
        rcases List.mem_cons.mp hy with hyr | hyr
        · rw [hyr]
          simpa using hp
        · exact ih (Option.map_eq_none_iff.mp h) y hyr

theorem isFor_some (domain : List (BitVec 8)) (r : DnsStaticRecord) :
    isFor domain (some r) = true ↔ r.domain.map toLower = domain.map toLower := by
  simp [isFor, domainEq]

@[simp] theorem isFor_none (domain : List (BitVec 8)) : isFor domain none = false := rfl

end DnsStatic

namespace DnsStaticCounted

variable {t t' : DnsStaticCounted} {domain name : List (BitVec 8)} {ip ttl : BitVec 32}

/-- The records in use. -/
def active (t : DnsStaticCounted) : List DnsStaticRecord := t.records.filterMap id

/-- Their names. -/
def names (t : DnsStaticCounted) : List (List (BitVec 8)) := t.active.map DnsStaticRecord.domain

/-- What holds of a table however it came about: it has its slots, each name is in lower case and
fits its slot, and the count is that of the records in use. -/
structure Stored (t : DnsStaticCounted) : Prop where
  slots : t.records.length = dnsStaticMaxRecords
  lower : ∀ n ∈ t.names, n.map toLower = n
  short : ∀ n ∈ t.names, n.length ≤ dnsMaxDomainLen
  counted : t.count = BitVec.ofNat 32 t.names.length

theorem mem_active {r : DnsStaticRecord} : r ∈ t.active ↔ some r ∈ t.records := by
  simp [active]

theorem names_append (pre post : DnsStaticTable) (x : Option DnsStaticRecord) (count : BitVec 32) :
    names ⟨pre ++ x :: post, count⟩ = (pre.filterMap id).map DnsStaticRecord.domain ++
      (x.toList.map DnsStaticRecord.domain ++ (post.filterMap id).map DnsStaticRecord.domain) := by
  cases x with
  | none => simp [names, active]
  | some r => simp [names, active]

theorem names_length_le (t : DnsStaticCounted) : t.names.length ≤ t.records.length := by
  unfold names active
  rw [List.length_map]
  exact List.length_filterMap_le id t.records

/-! ### One change -/

/-- The ways in which an addition may go. -/
inductive Added (t : DnsStaticCounted) (domain : List (BitVec 8)) (ip ttl : BitVec 32) :
    Status × DnsStaticCounted → Prop
  /-- The first record of that name is renewed. -/
  | renewed (pre post : DnsStaticTable) (r : DnsStaticRecord)
      (htable : t.records = pre ++ some r :: post)
      (hpre : ∀ y ∈ pre, DnsStatic.isFor domain y = false)
      (hr : r.domain.map toLower = domain.map toLower) :
      Added t domain ip ttl
        (.success, ⟨pre ++ some { r with ipAddr := ip, ttl := ttl } :: post, t.count⟩)
  /-- There is none, and the first empty slot is filled. -/
  | placed (pre post : DnsStaticTable) (htable : t.records = pre ++ none :: post)
      (hnone : ∀ y ∈ t.records, DnsStatic.isFor domain y = false) :
      Added t domain ip ttl
        (.success, ⟨pre ++ some ⟨(domain.take dnsMaxDomainLen).map toLower, ip, ttl⟩ :: post,
          t.count + 1⟩)
  /-- There is none, and no slot is empty. -/
  | full (hnone : ∀ y ∈ t.records, DnsStatic.isFor domain y = false)
      (hfull : ∀ y ∈ t.records, y.isNone = false) : Added t domain ip ttl (.error, t)

theorem added (t : DnsStaticCounted) (domain : List (BitVec 8)) (ip : BitVec 32) (httl : ttl ≠ 0) :
    Added t domain ip ttl (t.add domain ip ttl) := by
  unfold add
  simp only [if_neg httl]
  split
  · rename_i records hrenew
    obtain ⟨pre, x, post, htable, hpre, hx, heq⟩ := DnsStatic.replaceFirst_some hrenew
    cases x with
    | none => cases hx
    | some r =>
        rw [heq]
        exact .renewed pre post r htable hpre ((DnsStatic.isFor_some domain r).mp hx)
  · rename_i hrenew
    have hnone := DnsStatic.replaceFirst_none hrenew
    split
    · rename_i records hplace
      obtain ⟨pre, x, post, htable, -, hx, heq⟩ := DnsStatic.replaceFirst_some hplace
      cases x with
      | none =>
          rw [heq]
          exact .placed pre post htable hnone
      | some r => cases hx
    · rename_i hplace
      exact .full hnone (DnsStatic.replaceFirst_none hplace)

/-- The ways in which a removal may go. -/
inductive Removed (t : DnsStaticCounted) (domain : List (BitVec 8)) :
    Status × DnsStaticCounted → Prop
  /-- The first record of that name goes. -/
  | cleared (pre post : DnsStaticTable) (r : DnsStaticRecord)
      (htable : t.records = pre ++ some r :: post)
      (hpre : ∀ y ∈ pre, DnsStatic.isFor domain y = false)
      (hr : r.domain.map toLower = domain.map toLower) :
      Removed t domain (.success, ⟨pre ++ none :: post, t.count - 1⟩)
  /-- There is none. -/
  | absent (hnone : ∀ y ∈ t.records, DnsStatic.isFor domain y = false) :
      Removed t domain (.error, t)

theorem removed (t : DnsStaticCounted) (domain : List (BitVec 8)) :
    Removed t domain (t.remove domain) := by
  unfold remove
  split
  · rename_i records hremove
    obtain ⟨pre, x, post, htable, hpre, hx, heq⟩ := DnsStatic.replaceFirst_some hremove
    cases x with
    | none => cases hx
    | some r =>
        rw [heq]
        exact .cleared pre post r htable hpre ((DnsStatic.isFor_some domain r).mp hx)
  · rename_i hremove
    exact .absent (DnsStatic.replaceFirst_none hremove)

/-- A name that is in no slot, the first one or any, is not among the names. -/
theorem notMem_names (ht : t.Stored) (h : ∀ y ∈ t.records, DnsStatic.isFor domain y = false) :
    domain.map toLower ∉ t.names := by
  intro hmem
  obtain ⟨r, hr, hname⟩ := List.mem_map.mp hmem
  have hlower := ht.lower r.domain (List.mem_map_of_mem hr)
  have hfor := (DnsStatic.isFor_some domain r).mpr (by rw [hlower, hname])
  rw [h (some r) (mem_active.mp hr)] at hfor
  cases hfor

/-- A record in a slot has the name that was looked for. -/
theorem domain_of_slot (ht : t.Stored) {pre post : DnsStaticTable} {r : DnsStaticRecord}
    (htable : t.records = pre ++ some r :: post)
    (hr : r.domain.map toLower = domain.map toLower) :
    r.domain = domain.map toLower ∧ domain.map toLower ∈ t.names := by
  have hmem : r.domain ∈ t.names :=
    List.mem_map_of_mem (mem_active.mpr (by rw [htable]; simp))
  have hlower := ht.lower r.domain hmem
  rw [hlower] at hr
  exact ⟨hr, by rw [← hr]; exact hmem⟩

theorem eq_mk {records : DnsStaticTable} (h : t.records = records) : t = ⟨records, t.count⟩ := by
  rw [← h]

/-- Slots that are all taken are as many as the records in them. -/
theorem length_filterMap_full {table : DnsStaticTable} (h : ∀ y ∈ table, y.isNone = false) :
    (table.filterMap id).length = table.length := by
  induction table with
  | nil => rfl
  | cons y rest ih =>
      cases y with
      | none => exact absurd (h none List.mem_cons_self) (by simp)
      | some r =>
          have hrest := ih fun z hz => h z (List.mem_cons_of_mem _ hz)
          show (r :: rest.filterMap id).length = (some r :: rest).length
          rw [List.length_cons, hrest, List.length_cons]

/-- The names after an addition: as they were, or with the name that was added. -/
inductive NamesAdded (t : DnsStaticCounted) (domain : List (BitVec 8)) (t' : DnsStaticCounted) :
    Status → Prop
  | renewed (hmem : domain.map toLower ∈ t.names) (hnames : t'.names = t.names)
      (hcount : t'.count = t.count)
      (hslots : t'.records.map (Option.map DnsStaticRecord.domain) =
        t.records.map (Option.map DnsStaticRecord.domain)) : NamesAdded t domain t' .success
  | placed (hmem : domain.map toLower ∉ t.names)
      (hnames : t'.names.Perm ((domain.take dnsMaxDomainLen).map toLower :: t.names))
      (hcount : t'.count = t.count + 1) (hlength : t'.records.length = t.records.length) :
      NamesAdded t domain t' .success
  | full (hmem : domain.map toLower ∉ t.names) (heq : t' = t)
      (hlength : t.names.length = t.records.length) : NamesAdded t domain t' .error

theorem namesAdded (ht : t.Stored) (httl : ttl ≠ 0) (domain : List (BitVec 8))
    (ip : BitVec 32) :
    NamesAdded t domain (t.add domain ip ttl).2 (t.add domain ip ttl).1 := by
  have hadded := added t domain ip httl
  generalize t.add domain ip ttl = r at hadded ⊢
  cases hadded with
  | renewed pre post r htable hpre hr =>
      refine .renewed (domain_of_slot ht htable hr).2 ?_ rfl ?_
      · rw [eq_mk htable, names_append, names_append]
        rfl
      · rw [htable]
        simp
  | placed pre post htable hnone =>
      refine .placed (notMem_names ht hnone) ?_ rfl ?_
      · rw [eq_mk htable, names_append, names_append]
        simp only [Option.toList_some, Option.toList_none, List.map_cons, List.map_nil,
          List.nil_append, List.singleton_append]
        exact List.perm_middle
      · rw [htable]
        simp
  | full hnone hfull =>
      refine .full (notMem_names ht hnone) rfl ?_
      unfold names active
      rw [List.length_map]
      exact length_filterMap_full hfull

/-- The names after a removal. -/
theorem names_remove (ht : t.Stored) (domain : List (BitVec 8)) :
    (domain.map toLower ∈ t.names ∧ (t.remove domain).1 = .success ∧
      t.names.Perm (domain.map toLower :: (t.remove domain).2.names) ∧
      (t.remove domain).2.count = t.count - 1 ∧
      (t.remove domain).2.records.length = t.records.length) ∨
    (domain.map toLower ∉ t.names ∧ t.remove domain = (.error, t)) := by
  have hremoved := removed t domain
  generalize t.remove domain = r at hremoved ⊢
  cases hremoved with
  | cleared pre post r htable hpre hr =>
      obtain ⟨hdomain, hmem⟩ := domain_of_slot ht htable hr
      refine Or.inl ⟨hmem, rfl, ?_, rfl, ?_⟩
      · rw [eq_mk htable, names_append, names_append]
        simp only [Option.toList_some, Option.toList_none, List.map_cons, List.map_nil,
          List.nil_append, List.singleton_append]
        rw [hdomain]
        exact List.perm_middle
      · rw [htable]
        simp
  | absent hnone => exact Or.inr ⟨notMem_names ht hnone, rfl⟩

/-! ### Every table that comes about -/

theorem stored_init : init.Stored where
  slots := by simp [init, DnsStatic.init]
  lower := by intro n hn; simp [names, active, init, DnsStatic.init] at hn
  short := by intro n hn; simp [names, active, init, DnsStatic.init] at hn
  counted := by simp [names, active, init, DnsStatic.init]

theorem Stored.add (ht : t.Stored) (httl : ttl ≠ 0) : (t.add domain ip ttl).2.Stored := by
  have hadded := namesAdded ht httl domain ip
  generalize t.add domain ip ttl = r at hadded ⊢
  obtain ⟨status, t'⟩ := r
  cases hadded with
  | renewed hmem hnames hcount hslots =>
      have hlength : t'.records.length = t.records.length := by
        have h := congrArg List.length hslots
        rwa [List.length_map, List.length_map] at h
      refine ⟨hlength.trans ht.slots, ?_, ?_, ?_⟩
      · rw [hnames]
        exact ht.lower
      · rw [hnames]
        exact ht.short
      · rw [hnames, hcount]
        exact ht.counted
  | placed hmem hnames hcount hlength =>
      refine ⟨hlength.trans ht.slots, ?_, ?_, ?_⟩
      · intro n hn
        rcases List.mem_cons.mp (hnames.mem_iff.mp hn) with hnew | hold
        · rw [hnew, map_toLower_map_toLower]
        · exact ht.lower n hold
      · intro n hn
        rcases List.mem_cons.mp (hnames.mem_iff.mp hn) with hnew | hold
        · rw [hnew, List.length_map]
          exact List.length_take_le _ _
        · exact ht.short n hold
      · rw [hcount, ht.counted, hnames.length_eq, List.length_cons]
        exact (BitVec.ofNat_add _ _).symm
  | full hmem heq hlength =>
      rw [heq]
      exact ht

theorem Stored.remove (ht : t.Stored) (domain : List (BitVec 8)) : (t.remove domain).2.Stored := by
  rcases names_remove ht domain with ⟨hmem, hstatus, hnames, hcount, hlength⟩ | habsent
  · have hsub (n : List (BitVec 8)) (hn : n ∈ (t.remove domain).2.names) : n ∈ t.names :=
      hnames.mem_iff.mpr (List.mem_cons_of_mem _ hn)
    refine ⟨hlength.trans ht.slots, fun n hn => ht.lower n (hsub n hn),
      fun n hn => ht.short n (hsub n hn), ?_⟩
    rw [hcount, ht.counted, hnames.length_eq, List.length_cons, BitVec.ofNat_add]
    exact BitVec.add_sub_cancel _ _
  · rw [habsent.2]
    exact ht

theorem ttl_ne_zero (ttl : BitVec 32) : (if ttl = 0 then 3600 else ttl) ≠ 0 := by
  split
  · decide
  · assumption

theorem Stored.applyRecord (ht : t.Stored) (w : DnsRecordConfig) : (t.applyRecord w).2.Stored := by
  unfold DnsStaticCounted.applyRecord
  cases inetPton w.ip with
  | none => exact ht
  | some ip => exact ht.add (ttl_ne_zero w.ttl)

theorem removeStale_eq (r : Status × DnsStaticCounted) :
    removeStale r domain =
      (if (r.2.remove domain).1 = .success then r.1 else .error, (r.2.remove domain).2) := by
  unfold removeStale
  generalize r.2.remove domain = x
  obtain ⟨status, t'⟩ := x
  cases status with
  | success => rfl
  | error => rfl

/-- Carrying out a record that is there already would change nothing. -/
theorem applyRecord_here {w : DnsRecordConfig}
    (h : (DnsStatic.lookup t.records w.domain).any (fun e =>
      some e.ipAddr == inetPton w.ip && e.ttl == if w.ttl = 0 then 3600 else w.ttl) = true) :
    t.applyRecord w = (.success, t) := by
  cases hlookup : DnsStatic.lookup t.records w.domain with
  | none =>
      rw [hlookup] at h
      cases h
  | some e =>
      rw [hlookup] at h
      simp only [Option.any_some, Bool.and_eq_true, beq_iff_eq] at h
      obtain ⟨hip, httl⟩ := h
      have hfound : t.records.find? (DnsStatic.isFor w.domain) = some (some e) := by
        unfold DnsStatic.lookup at hlookup
        cases hfind : t.records.find? (DnsStatic.isFor w.domain) with
        | none => rw [hfind] at hlookup; cases hlookup
        | some x => rw [hfind] at hlookup; exact congrArg some hlookup
      have hadded := added t w.domain e.ipAddr (ttl_ne_zero w.ttl)
      unfold applyRecord
      rw [← hip]
      show t.add w.domain e.ipAddr (if w.ttl = 0 then 3600 else w.ttl) = _
      generalize t.add w.domain e.ipAddr (if w.ttl = 0 then 3600 else w.ttl) = r at hadded ⊢
      have hmem := List.mem_of_find?_eq_some hfound
      have hfor := List.find?_some hfound
      cases hadded with
      | renewed pre post r htable hpre hr =>
          -- The slot that was found is the slot that is renewed.
          have hfirst : t.records.find? (DnsStatic.isFor w.domain) = some (some r) := by
            rw [htable, List.find?_append, List.find?_eq_none.mpr (by simpa using hpre),
              List.find?_cons_of_pos ((DnsStatic.isFor_some w.domain r).mpr hr)]
            rfl
          rw [hfound] at hfirst
          have hre : e = r := Option.some.inj (Option.some.inj hfirst)
          rw [← httl, hre, ← htable]
      | placed pre post htable hnone => rw [hnone _ hmem] at hfor; cases hfor
      | full hnone hfull => rw [hnone _ hmem] at hfor; cases hfor

/-- The third pass carries out each record, whether it is there or not. -/
theorem setRecord_eq (r : Status × DnsStaticCounted) (w : DnsRecordConfig) :
    setRecord r w =
      (if (r.2.applyRecord w).1 = .success then r.1 else .error, (r.2.applyRecord w).2) := by
  unfold setRecord
  simp only
  by_cases hhere : (DnsStatic.lookup r.2.records w.domain).any (fun e =>
      some e.ipAddr == inetPton w.ip && e.ttl == if w.ttl = 0 then 3600 else w.ttl) = true
  · rw [if_pos hhere, applyRecord_here hhere]
    rfl
  · rw [if_neg hhere]
    generalize r.2.applyRecord w = x
    obtain ⟨status, t'⟩ := x
    cases status with
    | success => rfl
    | error => rfl

theorem Stored.applyRecordSet (ht : t.Stored) (records : List DnsRecordConfig) :
    (t.applyRecordSet records).2.Stored := by
  have hremoves (l : List (List (BitVec 8))) (r : Status × DnsStaticCounted) (hr : r.2.Stored) :
      (l.foldl removeStale r).2.Stored := by
    induction l generalizing r with
    | nil => exact hr
    | cons d rest ih =>
        refine ih _ ?_
        rw [removeStale_eq]
        exact hr.remove d
  have hsets (l : List DnsRecordConfig) (r : Status × DnsStaticCounted) (hr : r.2.Stored) :
      (l.foldl setRecord r).2.Stored := by
    induction l generalizing r with
    | nil => exact hr
    | cons w rest ih =>
        refine ih _ ?_
        rw [setRecord_eq]
        exact hr.applyRecord w
  unfold DnsStaticCounted.applyRecordSet
  simp only
  split
  · exact ht
  · exact hsets _ _ (hremoves _ _ ht)

theorem Stored.step (ht : t.Stored) (op : DnsStaticOp) : (t.step op).Stored := by
  cases op with
  | applyRecord record => exact ht.applyRecord record
  | removeRecord domain => exact ht.remove domain
  | applyRecordSet records => exact ht.applyRecordSet records

/-- A table made by any changes. -/
theorem run_stored {ops : List DnsStaticOp}
    (h : Run DnsStaticCounted.step (fun _ _ => True) init ops t) : t.Stored :=
  h.inv Stored (fun _ op hs _ => hs.step op) stored_init

end DnsStaticCounted

end FastRG
