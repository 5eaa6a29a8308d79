/-
Field edits by several threads.

An edit takes effect when it stores, or not at all if its merge fails.  If the value it stores over
is the one it has read, it does what it would do with nothing in between, and so all the edits
together do what they do one after another, in the order in which they store
(`run_edits_serial`).  Nothing makes this so: a value stored by another thread since then is
overwritten.
-/
import FastRG.SnapshotMerge
import FastRG.Lib.Run

namespace FastRG

variable {key : SnapshotKey} {calls : Nat → FieldCall} {p : EditSystem} {s₀ : ConfigSnapshot}

/-- The edits one after another. -/
def serialEdits (key : SnapshotKey) (calls : Nat → FieldCall) (s : ConfigSnapshot)
    (order : List (Nat × SnapshotTime)) : ConfigSnapshot :=
  order.foldl (fun s e => (snapshotFieldEdit key s (calls e.1) e.2).2) s

theorem serialEdits_append (s : ConfigSnapshot) (order : List (Nat × SnapshotTime)) (i : Nat)
    (now : SnapshotTime) : serialEdits key calls s (order ++ [(i, now)]) =
      (snapshotFieldEdit key (serialEdits key calls s order) (calls i) now).2 := by
  unfold serialEdits
  rw [List.foldl_append]
  rfl

/-- A call stores over the value it has read. -/
def SnapshotSettled (key : SnapshotKey) (p : EditSystem) : EditLabel → Prop
  | .store i _ => ∀ cur value, p.threads i = .merged cur value → p.snapshot.get key = cur
  | _ => True

/-- The call has had its effect: it is finished, or about to fail. -/
def Settled (calls : Nat → FieldCall) (i : Nat) : EditThread → Prop
  | .finished => True
  | .read cur => (calls i).merge cur = none
  | _ => False

/-- The snapshot is what the settled calls make of it, one after another. -/
structure SerialSoFar (key : SnapshotKey) (calls : Nat → FieldCall) (s₀ : ConfigSnapshot)
    (p : EditSystem) (order : List (Nat × SnapshotTime)) : Prop where
  snapshot : p.snapshot = serialEdits key calls s₀ order
  nodup : (order.map Prod.fst).Nodup
  settled : ∀ i, i ∈ order.map Prod.fst ↔ Settled calls i (p.threads i)
  merged : ∀ i cur value, p.threads i = .merged cur value → (calls i).merge cur = some value

namespace SerialSoFar

variable {order : List (Nat × SnapshotTime)}

/-- A call gets on without its effect. -/
theorem setThread (h : SerialSoFar key calls s₀ p order) (i : Nat) {th : EditThread}
    (hsame : Settled calls i th ↔ Settled calls i (p.threads i))
    (hmerged : ∀ cur value, th = .merged cur value → (calls i).merge cur = some value) :
    SerialSoFar key calls s₀ (p.setThread i th) order := by
  refine ⟨h.snapshot, h.nodup, fun j => ?_, fun j cur value hj => ?_⟩
  · rw [h.settled j]
    by_cases hij : j = i
    · rw [hij]
      simp only [EditSystem.setThread, Function.update_self]
      exact hsame.symm
    · simp [EditSystem.setThread, hij]
  · by_cases hij : j = i
    · rw [hij] at hj ⊢
      simp only [EditSystem.setThread, Function.update_self] at hj
      exact hmerged cur value hj
    · refine h.merged j cur value ?_
      simpa [EditSystem.setThread, hij] using hj

/-- A call takes effect. -/
theorem settle (h : SerialSoFar key calls s₀ p order) (i : Nat) (th : EditThread)
    (hbefore : ¬ Settled calls i (p.threads i)) (hafter : Settled calls i th) (now : SnapshotTime) :
    SerialSoFar key calls s₀
      { p.setThread i th with
        snapshot := (snapshotFieldEdit key p.snapshot (calls i) now).2 } (order ++ [(i, now)]) := by
  have hnew : i ∉ order.map Prod.fst := fun hi => hbefore ((h.settled i).mp hi)
  refine ⟨?_, ?_, fun j => ?_, fun j cur value hj => ?_⟩
  · rw [serialEdits_append, ← h.snapshot]
  · rw [List.map_append]
    exact List.Nodup.append h.nodup (List.nodup_singleton i)
      (List.disjoint_singleton.mpr hnew)
  · rw [List.map_append, List.mem_append, h.settled j]
    by_cases hij : j = i
    · rw [hij]
      simp [EditSystem.setThread, hafter]
    · simp [EditSystem.setThread, hij]
  · by_cases hij : j = i
    · rw [hij] at hj
      simp only [EditSystem.setThread, Function.update_self] at hj
      rw [hj] at hafter
      exact absurd hafter id
    · refine h.merged j cur value ?_
      simpa [EditSystem.setThread, hij] using hj

end SerialSoFar

/-- The time of a call that does not store. -/
def noTime : SnapshotTime := ⟨0, []⟩

theorem serial_step (h : ∃ order, SerialSoFar key calls s₀ p order) (l : EditLabel)
    (hl : SnapshotSettled key p l) : ∃ order, SerialSoFar key calls s₀ (editStep key calls p l) order := by
  obtain ⟨order, h⟩ := h
  cases l with
  | get i =>
      simp only [editStep]
      split
      · rename_i hready
        have hnot : ¬ Settled calls i (p.threads i) := by rw [hready]; exact id
        by_cases hmerge : (calls i).merge (p.snapshot.get key) = none
        · -- the merge will fail, whatever happens meanwhile
          have hfail := h.settle i (.read (p.snapshot.get key)) hnot hmerge noTime
          have hsame : (snapshotFieldEdit key p.snapshot (calls i) noTime).2 = p.snapshot := by
            rw [snapshotFieldEdit, hmerge]
          rw [hsame] at hfail
          exact ⟨_, hfail⟩
        · refine ⟨order, h.setThread i ?_ fun _ _ hth => EditThread.noConfusion hth⟩
          exact ⟨fun hth => absurd hth hmerge, fun hth => absurd hth hnot⟩
      · exact ⟨order, h⟩
  | merge i =>
      simp only [editStep]
      split
      · rename_i cur hread
        split
        · rename_i hmerge
          refine ⟨order, h.setThread i ?_ fun _ _ hth => EditThread.noConfusion hth⟩
          rw [hread]
          exact ⟨fun _ => hmerge, fun _ => trivial⟩
        · rename_i value hmerge
          refine ⟨order, h.setThread i ?_ fun cur' value' hth => ?_⟩
          · rw [hread]
            refine ⟨fun hth => absurd hth id, fun hth => ?_⟩
            have hnone : (calls i).merge cur = none := hth
            rw [hmerge] at hnone
            exact absurd hnone (by simp)
          · obtain ⟨hcur, hvalue⟩ := EditThread.merged.inj hth
            rw [← hcur, ← hvalue]
            exact hmerge
      · exact ⟨order, h⟩
  | store i now =>
      simp only [editStep]
      split
      · rename_i cur value hmerged
        have hnot : ¬ Settled calls i (p.threads i) := by rw [hmerged]; exact id
        have hsame : (snapshotFieldEdit key p.snapshot (calls i) now).2 =
            (p.snapshot.offlineEdit key value (calls i).summary now).2 := by
          rw [snapshotFieldEdit, hl cur value hmerged, h.merged i cur value hmerged]
        have hdone := h.settle i .finished hnot trivial now
        rw [hsame] at hdone
        exact ⟨_, hdone⟩
      · exact ⟨order, h⟩

theorem serial_start (key : SnapshotKey) (calls : Nat → FieldCall) (s₀ : ConfigSnapshot) :
    SerialSoFar key calls s₀ ⟨s₀, fun _ => .ready⟩ [] :=
  ⟨rfl, List.nodup_nil, fun _ => ⟨fun h => absurd h (by simp), fun h => absurd h id⟩,
    fun _ _ _ h => EditThread.noConfusion h⟩

/--
**Edits in series.** Any number of edits of one key run side by side, their steps in any order.  If
each stores over the value it has read, then once all are finished the snapshot is what the edits
make of it one after another, in some order.
-/
theorem run_edits_serial (key : SnapshotKey) (calls : Nat → FieldCall) (s₀ : ConfigSnapshot)
    (n : Nat) (ls : List EditLabel) (q : EditSystem)
    (h : Run (editStep key calls) (SnapshotSettled key) ⟨s₀, fun _ => .ready⟩ ls q)
    (hdone : ∀ i, q.threads i = if i < n then .finished else .ready) :
    ∃ order : List (Nat × SnapshotTime), (order.map Prod.fst).Perm (List.range n) ∧
      q.snapshot = serialEdits key calls s₀ order := by
  obtain ⟨order, ho⟩ := h.inv (fun q => ∃ order, SerialSoFar key calls s₀ q order)
    (fun _ l hp hl => serial_step hp l hl) ⟨[], serial_start key calls s₀⟩
  refine ⟨order, (List.perm_ext_iff_of_nodup ho.nodup List.nodup_range).mpr fun i => ?_, ho.snapshot⟩
  rw [ho.settled i, hdone i, List.mem_range]
  by_cases hi : i < n
  · rw [if_pos hi]
    exact ⟨fun _ => hi, fun _ => trivial⟩
  · rw [if_neg hi]
    exact ⟨fun hs => absurd hs id, fun hs => absurd hs hi⟩

/-! ### Two port mappings -/

/-- The key of the first subscriber's configuration. -/
def firstHsi : SnapshotKey := (.hsi, asciiBytes "1")

/-- A snapshot with a configuration that has no port mappings. -/
def noMappings : ConfigSnapshot :=
  (ConfigSnapshot.loaded ∅).watchUpdate firstHsi (some (.doc (.obj [("config", .obj [])])))

/-- A mapping of a port. -/
def mappingOf (eport : String) : JsonText :=
  .doc (.obj [("eport", .str (asciiBytes eport)), ("dip", .str (asciiBytes "10.0.0.2")),
    ("dport", .str (asciiBytes "80"))])

/-- Port 80 is mapped by one call and port 81 by the other. -/
def twoMappings (i : Nat) : FieldCall :=
  ⟨.snatUpsert (mappingOf (if i = 0 then "80" else "81")), [], false⟩

/-- The number of port mappings in the snapshot. -/
def mappingCount (s : ConfigSnapshot) : Option Nat :=
  ((((s.get firstHsi).bind JsonText.parse).bind (Json.get "config")).bind
    (Json.getArray "port-mapping")).map List.length

/-- One call alone. -/
def editedBy (i : Nat) (t : SnapshotTime) : ConfigSnapshot :=
  (snapshotFieldEdit firstHsi noMappings (twoMappings i) t).2

theorem mappingCount_both (t u : SnapshotTime) :
    mappingCount (snapshotFieldEdit firstHsi (editedBy 0 t) (twoMappings 1) u).2 = some 2 := by
  rfl

theorem mappingCount_swapped (t u : SnapshotTime) :
    mappingCount (snapshotFieldEdit firstHsi (editedBy 1 t) (twoMappings 0) u).2 = some 2 := by
  rfl

/-- Both calls, their steps in some order. -/
def editBoth (ls : List EditLabel) : EditSystem :=
  ls.foldl (editStep firstHsi twoMappings) ⟨noMappings, fun _ => .ready⟩

/-- One call after the other: both mappings are there. -/
theorem run_edits_serial_in_turn :
    ∃ order : List (Nat × SnapshotTime), (order.map Prod.fst).Perm (List.range 2) ∧
      (editBoth [.get 0, .merge 0, .store 0 noTime, .get 1, .merge 1, .store 1 noTime]).snapshot =
        serialEdits firstHsi twoMappings noMappings order := by
  refine run_edits_serial firstHsi twoMappings noMappings 2
    ([.get 0, .merge 0] ++ [.store 0 noTime] ++ [.get 1, .merge 1] ++ [.store 1 noTime]) _
    (Run.append (Run.append (Run.append (Run.of_labels _ _ ?_) (Run.single _ ?_))
      (Run.of_labels _ _ ?_)) (Run.single _ ?_)) ?_
  · intro s l hl
    rcases List.mem_cons.mp hl with h | h
    · rw [h]
      exact trivial
    · rw [List.mem_singleton.mp h]
      exact trivial
  · exact fun cur value h => (EditThread.merged.inj h).1
  · intro s l hl
    rcases List.mem_cons.mp hl with h | h
    · rw [h]
      exact trivial
    · rw [List.mem_singleton.mp h]
      exact trivial
  · exact fun cur value h => (EditThread.merged.inj h).1
  · intro i
    match i with
    | 0 => rfl
    | 1 => rfl
    | i + 2 => rfl

/-- Both read before either stores: the first mapping is gone, which no order explains. -/
theorem overlapping_edit_lost :
    let q := editBoth [.get 0, .get 1, .merge 0, .merge 1, .store 0 noTime, .store 1 noTime]
    (∀ i, q.threads i = if i < 2 then .finished else .ready) ∧
      ¬ ∃ order : List (Nat × SnapshotTime), (order.map Prod.fst).Perm (List.range 2) ∧
        q.snapshot = serialEdits firstHsi twoMappings noMappings order := by
  refine ⟨fun i => ?_, fun h => ?_⟩
  · match i with
    | 0 => rfl
    | 1 => rfl
    | i + 2 => rfl
  · obtain ⟨order, hperm, hsnap⟩ := h
    have hone : mappingCount (editBoth [.get 0, .get 1, .merge 0, .merge 1, .store 0 noTime,
        .store 1 noTime]).snapshot = some 1 := by rfl
    have hlen : order.length = 2 := by simpa using hperm.length_eq
    have htwo : mappingCount (serialEdits firstHsi twoMappings noMappings order) = some 2 := by
      match order, hlen with
      | [(i, t), (j, u)], _ =>
          have hi : i < 2 := List.mem_range.mp (hperm.subset (by simp))
          have hj : j < 2 := List.mem_range.mp (hperm.subset (by simp))
          have hne : i ≠ j := by
            have hnodup := hperm.nodup_iff.mpr List.nodup_range
            simpa using hnodup
          have hcases : i = 0 ∧ j = 1 ∨ i = 1 ∧ j = 0 := by omega
          rcases hcases with ⟨h0, h1⟩ | ⟨h1, h0⟩
          · rw [h0, h1]
            exact mappingCount_both t u
          · rw [h0, h1]
            exact mappingCount_swapped t u
    rw [hsnap, htwo] at hone
    exact absurd hone (by decide)

end FastRG
