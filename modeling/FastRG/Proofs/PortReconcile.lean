/-
Port mappings put in force by a reconcile.

Of several mappings of one port the last that can be read is the one in force.  The passes reach
that from whatever the table held (`portsOf_reconcile`): the first closes the ports that are not
listed, and the second writes each mapping over the ones before it.  A mapping whose address
cannot be read is passed over, and the call ends with an error; a port all of whose mappings are
so keeps its entry as it was, its counter too (`reconcile_unread`).
-/
import FastRG.Lib.LastWins
import FastRG.Proofs.Recreate

namespace FastRG

/-- What a mapping says of a port, when it is the port's and its address can be read. -/
def PortMapping.forwards (port : BitVec 16) (m : PortMapping) : Option (BitVec 32 × BitVec 16) :=
  if m.eport = port then (parseIp m.dip).map fun dip => (dip, swap16 m.dport) else none

/-- The last-wins map of a list of mappings. -/
def lastMapping (mappings : List PortMapping) (port : BitVec 16) :
    Option (BitVec 32 × BitVec 16) :=
  lastWins (PortMapping.forwards port) mappings

namespace Node

/-! ### The second pass -/

/-- A mapping that cannot be read changes no entry. -/
theorem reconcileMapping_unread {m : PortMapping} (r : Status × (Nat → PortFwdEntry))
    (hdip : parseIp m.dip = none) : reconcileMapping r m = (.error, r.2) := by
  unfold reconcileMapping
  rw [hdip]

/-- A mapping that can be read leaves the status. -/
theorem reconcileMapping_status {m : PortMapping} {dip : BitVec 32}
    (r : Status × (Nat → PortFwdEntry)) (hdip : parseIp m.dip = some dip) :
    (reconcileMapping r m).1 = r.1 := by
  simp only [reconcileMapping, hdip]
  by_cases hactive : (r.2 m.eport.toNat).isActive = false
  · rw [if_pos hactive]
  · rw [if_neg hactive]
    split
    · rfl
    · rfl

/-- What a mapping makes of a port. -/
theorem portsOf_reconcileMapping_eq (r : Status × (Nat → PortFwdEntry)) (m : PortMapping)
    (port : BitVec 16) :
    portsOf (reconcileMapping r m).2 port = (m.forwards port).or (portsOf r.2 port) := by
  unfold PortMapping.forwards
  cases hdip : parseIp m.dip with
  | none =>
      rw [reconcileMapping_unread r hdip]
      simp
  | some dip =>
      rw [portsOf_reconcileMapping r hdip]
      by_cases hport : m.eport = port
      · simp [hport]
      · simp [hport]

/-- An entry that no mapping of its port can be read for is passed over. -/
theorem reconcileMapping_other {m : PortMapping} {port : BitVec 16}
    (r : Status × (Nat → PortFwdEntry)) (h : m.eport = port → parseIp m.dip = none) :
    (reconcileMapping r m).2 port.toNat = r.2 port.toNat := by
  cases hdip : parseIp m.dip with
  | none => rw [reconcileMapping_unread r hdip]
  | some dip =>
      have hne : port.toNat ≠ m.eport.toNat := by
        intro heq
        have hnone := h (BitVec.eq_of_toNat_eq heq.symm)
        rw [hdip] at hnone
        cases hnone
      have hadd (table : Nat → PortFwdEntry) :
          portFwdAdd table m.eport dip m.dport port.toNat = table port.toNat := by
        unfold portFwdAdd
        split
        · rfl
        · exact Function.update_of_ne hne _ _
      have hremove (table : Nat → PortFwdEntry) :
          (portFwdRemove table m.eport).2 port.toNat = table port.toNat := by
        unfold portFwdRemove
        split
        · rfl
        · exact Function.update_of_ne hne _ _
      simp only [reconcileMapping, hdip]
      split
      · exact hadd r.2
      · split
        · exact (hadd _).trans (hremove r.2)
        · rfl

/-- The second pass over a port: the last mapping that can be read, or what was there. -/
theorem portsOf_foldl (mappings : List PortMapping) (r : Status × (Nat → PortFwdEntry))
    (port : BitVec 16) :
    portsOf (mappings.foldl reconcileMapping r).2 port =
      (lastMapping mappings port).or (portsOf r.2 port) := by
  refine (foldl_lastWins (PortMapping.forwards port) reconcileMapping
    (fun r => portsOf r.2 port) (fun _ => True) mappings ?_ r trivial).2
  intro m _ r _
  exact ⟨trivial, portsOf_reconcileMapping_eq r m port⟩

/-- The second pass leaves an entry that no mapping of its port can be read for. -/
theorem foldl_other {port : BitVec 16} (mappings : List PortMapping)
    (r : Status × (Nat → PortFwdEntry))
    (h : ∀ m ∈ mappings, m.eport = port → parseIp m.dip = none) :
    (mappings.foldl reconcileMapping r).2 port.toNat = r.2 port.toNat := by
  induction mappings generalizing r with
  | nil => rfl
  | cons m rest ih =>
      have hrest := ih (reconcileMapping r m) fun m' hm' => h m' (List.mem_cons_of_mem m hm')
      rw [List.foldl_cons, hrest, reconcileMapping_other r (h m List.mem_cons_self)]

/-- Mappings that can all be read leave the status. -/
theorem foldl_status (mappings : List PortMapping) (r : Status × (Nat → PortFwdEntry))
    (hread : ∀ m ∈ mappings, ∃ dip, parseIp m.dip = some dip) :
    (mappings.foldl reconcileMapping r).1 = r.1 := by
  induction mappings generalizing r with
  | nil => rfl
  | cons m rest ih =>
      obtain ⟨dip, hdip⟩ := hread m List.mem_cons_self
      have hrest := ih (reconcileMapping r m) fun m' hm' => hread m' (List.mem_cons_of_mem m hm')
      rw [List.foldl_cons, hrest, reconcileMapping_status r hdip]

/-! ### Both passes -/

/-- The passes succeed exactly when every mapping can be read. -/
theorem reconcileTable_success (mappings : List PortMapping) (table : Nat → PortFwdEntry) :
    (reconcileTable mappings table).1 = .success ↔
      ∀ m ∈ mappings, ∃ dip, parseIp m.dip = some dip := by
  refine ⟨?_, ?_⟩
  · intro h
    exact (reconcile_readable mappings _ h).2
  · intro h
    exact foldl_status mappings _ h

/-- The first pass leaves the entry of a port that is listed. -/
theorem removeStale_listed {mappings : List PortMapping} (table : Nat → PortFwdEntry)
    {port : BitVec 16} (h : ∃ m ∈ mappings, m.eport = port) :
    removeStale mappings table port.toNat = table port.toNat := by
  obtain ⟨m, hm, hport⟩ := h
  unfold removeStale
  rw [if_neg]
  intro hstale
  have hne := of_decide_eq_true (List.all_eq_true.mp hstale.2.2 m hm)
  exact hne (by rw [hport])

/-- Without a mapping that can be read there is no last one. -/
theorem lastMapping_unread {mappings : List PortMapping} {port : BitVec 16}
    (h : ∀ m ∈ mappings, m.eport = port → parseIp m.dip = none) :
    lastMapping mappings port = none := by
  refine lastWins_eq_none_iff.mpr ?_
  intro m hm
  unfold PortMapping.forwards
  by_cases hport : m.eport = port
  · rw [if_pos hport, h m hm hport]
    rfl
  · rw [if_neg hport]

/-- With one there is a last. -/
theorem lastMapping_read {mappings : List PortMapping} {m : PortMapping} {dip : BitVec 32}
    (hm : m ∈ mappings) (hdip : parseIp m.dip = some dip) :
    ∃ v, lastMapping mappings m.eport = some v := by
  have hforwards : m.forwards m.eport = some (dip, swap16 m.dport) := by
    unfold PortMapping.forwards
    rw [if_pos rfl, hdip]
    rfl
  refine Option.isSome_iff_exists.mp (lastWins_isSome_iff.mpr ⟨m, hm, ?_⟩)
  rw [hforwards]
  rfl

/-- Both passes over a port whose mappings can be read, or that has none: the last-wins map. -/
theorem portsOf_reconcile {mappings : List PortMapping} (table : Nat → PortFwdEntry)
    {port : BitVec 16}
    (h : (∀ m ∈ mappings, m.eport ≠ port) ∨
      ∃ m ∈ mappings, m.eport = port ∧ ∃ dip, parseIp m.dip = some dip) :
    portsOf (reconcileTable mappings table).2 port = lastMapping mappings port := by
  unfold reconcileTable
  rw [portsOf_foldl]
  rcases h with hnone | ⟨m, hm, hport, dip, hdip⟩
  · rw [portsOf_removeStale table hnone]
    exact Option.or_none
  · obtain ⟨v, hv⟩ := lastMapping_read hm hdip
    rw [← hport, hv]
    rfl

/-- Both passes over a port that is listed, but with no address that can be read. -/
theorem reconcile_unread {mappings : List PortMapping} (table : Nat → PortFwdEntry)
    {port : BitVec 16} (hlisted : ∃ m ∈ mappings, m.eport = port)
    (hunread : ∀ m ∈ mappings, m.eport = port → parseIp m.dip = none) :
    (reconcileTable mappings table).2 port.toNat = table port.toNat := by
  unfold reconcileTable
  rw [foldl_other mappings _ hunread]
  exact removeStale_listed table hlisted

/-! ### The call -/

/-- The ports of a subscriber. -/
def portTable (s : Node) (c : Nat) : Nat → PortFwdEntry := (s.subs c).nat.portFwdTable

/-- The call is the passes over the subscriber's table. -/
theorem reconcilePortMapping_valid {s : Node} {c : Nat} (h : s.isValidCcbId c = true)
    (mappings : List PortMapping) :
    (s.reconcilePortMapping c mappings).1 = (reconcileTable mappings (s.portTable c)).1 ∧
      (s.reconcilePortMapping c mappings).2.portTable c =
        (reconcileTable mappings (s.portTable c)).2 ∧
      (s.reconcilePortMapping c mappings).2.isValidCcbId c = true := by
  unfold reconcilePortMapping
  rw [if_neg (by simp [h])]
  refine ⟨rfl, ?_, h⟩
  simp [portTable, modSub]

/-- A call that succeeds is for a subscriber, and every address of its list can be read. -/
theorem reconcilePortMapping_success {s : Node} {c : Nat} {mappings : List PortMapping}
    (h : (s.reconcilePortMapping c mappings).1 = .success) :
    s.isValidCcbId c = true ∧ ∀ m ∈ mappings, ∃ dip, parseIp m.dip = some dip := by
  have hvalid : s.isValidCcbId c = true := by
    by_contra hinvalid
    unfold reconcilePortMapping at h
    rw [if_pos (by simpa using hinvalid)] at h
    cases h
  rw [(reconcilePortMapping_valid hvalid mappings).1] at h
  exact ⟨hvalid, (reconcileTable_success mappings _).mp h⟩

/--
**A reconcile puts the last-wins map in force.**  After a call that succeeds the ports in use are
exactly those of the list, each with the address and port of its last mapping, and the same call
again leaves every port as it is.  After a call that fails on an address the mappings that can be
read are in force the same way, the ports that are not listed are closed, and a port none of whose
mappings can be read has the entry it had.
-/
theorem reconcile_last_wins (s : Node) (c : Nat) (mappings : List PortMapping) :
    ((s.reconcilePortMapping c mappings).1 = .success →
      portsOf ((s.reconcilePortMapping c mappings).2.portTable c) = lastMapping mappings ∧
        (∀ port, (lastMapping mappings port).isSome = true ↔ ∃ m ∈ mappings, m.eport = port) ∧
        portsOf (((s.reconcilePortMapping c mappings).2.reconcilePortMapping c mappings).2.portTable
          c) = portsOf ((s.reconcilePortMapping c mappings).2.portTable c)) ∧
    (s.isValidCcbId c = true → (s.reconcilePortMapping c mappings).1 = .error →
      (∃ m ∈ mappings, parseIp m.dip = none) ∧ ∀ port,
        ((∀ m ∈ mappings, m.eport ≠ port) →
          portsOf ((s.reconcilePortMapping c mappings).2.portTable c) port = none) ∧
        ((∃ m ∈ mappings, m.eport = port ∧ (parseIp m.dip).isSome = true) →
          portsOf ((s.reconcilePortMapping c mappings).2.portTable c) port =
            lastMapping mappings port ∧ (lastMapping mappings port).isSome = true) ∧
        ((∃ m ∈ mappings, m.eport = port) →
          (∀ m ∈ mappings, m.eport = port → parseIp m.dip = none) →
          (s.reconcilePortMapping c mappings).2.portTable c port.toNat =
            s.portTable c port.toNat)) := by
  refine ⟨?_, ?_⟩
  · intro h
    obtain ⟨hvalid, hread⟩ := reconcilePortMapping_success h
    obtain ⟨-, htable, hvalid'⟩ := reconcilePortMapping_valid hvalid mappings
    obtain ⟨-, htable', -⟩ := reconcilePortMapping_valid hvalid' mappings
    refine ⟨?_, ?_, ?_⟩
    · funext port
      rw [htable]
      refine portsOf_reconcile _ ?_
      by_cases hlisted : ∃ m ∈ mappings, m.eport = port
      · obtain ⟨m, hm, hport⟩ := hlisted
        exact Or.inr ⟨m, hm, hport, hread m hm⟩
      · exact Or.inl fun m hm hport => hlisted ⟨m, hm, hport⟩
    · intro port
      refine ⟨?_, ?_⟩
      · intro hsome
        by_contra hlisted
        rw [lastMapping_unread fun m hm hport => absurd ⟨m, hm, hport⟩ hlisted] at hsome
        cases hsome
      · intro hlisted
        obtain ⟨m, hm, hport⟩ := hlisted
        obtain ⟨dip, hdip⟩ := hread m hm
        obtain ⟨v, hv⟩ := lastMapping_read hm hdip
        rw [← hport, hv]
        rfl
    · rw [htable', htable]
      exact portsOf_reconcileTable hread _ _
  · intro hvalid herror
    obtain ⟨hstatus, htable, -⟩ := reconcilePortMapping_valid hvalid mappings
    refine ⟨?_, ?_⟩
    · by_contra hnone
      have hread : ∀ m ∈ mappings, ∃ dip, parseIp m.dip = some dip := by
        intro m hm
        exact Option.ne_none_iff_exists'.mp fun hdip => hnone ⟨m, hm, hdip⟩
      rw [hstatus, (reconcileTable_success mappings _).mpr hread] at herror
      cases herror
    · intro port
      rw [htable]
      refine ⟨?_, ?_, ?_⟩
      · intro hunlisted
        rw [portsOf_reconcile _ (Or.inl hunlisted)]
        exact lastMapping_unread fun m hm hport => absurd hport (hunlisted m hm)
      · intro hread
        obtain ⟨m, hm, hport, hdip⟩ := hread
        obtain ⟨dip, hdip⟩ := Option.isSome_iff_exists.mp hdip
        obtain ⟨v, hv⟩ := lastMapping_read hm hdip
        refine ⟨portsOf_reconcile _ (Or.inr ⟨m, hm, hport, dip, hdip⟩), ?_⟩
        rw [← hport, hv]
        rfl
      · intro hlisted hunread
        exact reconcile_unread _ hlisted hunread

end Node

end FastRG
