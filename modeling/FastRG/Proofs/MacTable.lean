/-
What a neighbour table still knows after a reset.

Beside a table stands what it should know: for each address the MAC it was learned with last since
the table was reset, if learning it did not fail.  A table knows no more than that in every run in
which a reset never comes to a generation that an entry still carries.  Entries stay in the hash and
the generation has 16 bits, so an entry that is not overwritten for 65536 resets is found again.

Iterating goes over the entries of the current generation, so it finds what lookup finds.
-/
import FastRG.MacTable
import FastRG.Nd6
import FastRG.Lib.Run
import FastRG.Lib.Stamped

namespace FastRG

/-! ### The word of an entry -/

/-- The bytes of a MAC, gathered one after the other. -/
theorem getLsbD_packBytes (mac : BitVec 48) (n : Nat) (hn : n ≤ 6) (i : Nat) :
    ((List.range n).foldl
      (fun v j => v ||| ((mac.extractLsb' (j * 8) 8).setWidth 64 <<< (j * 8))) 0).getLsbD i =
      (decide (i < n * 8) && mac.getLsbD i) := by
  induction n with
  | zero => simp
  | succ n ih =>
      rw [List.range_succ, List.foldl_append, List.foldl_cons, List.foldl_nil, BitVec.getLsbD_or,
        ih (by omega), BitVec.getLsbD_shiftLeft, BitVec.getLsbD_setWidth, BitVec.getLsbD_extractLsb']
      by_cases hbelow : i < n * 8
      · simp [hbelow, show i < (n + 1) * 8 by omega]
      · by_cases hhere : i < (n + 1) * 8
        · have hback : n * 8 + (i - n * 8) = i := by omega
          simp [hbelow, hhere, hback, show i < 64 by omega, show i - n * 8 < 8 by omega,
            show i - n * 8 < 64 by omega]
        · simp [hbelow, hhere, show ¬ i - n * 8 < 8 by omega]

/-- What is packed is unpacked. -/
theorem macTableUnpack_pack (mac : BitVec 48) (gen : BitVec 16) :
    macTableUnpack (macTablePack mac gen) = (gen, mac) := by
  have hbits := getLsbD_packBytes mac 6 (Nat.le_refl 6)
  refine Prod.ext ?_ ?_
  · apply BitVec.eq_of_getLsbD_eq
    intro i hi
    show ((macTablePack mac gen).extractLsb' 48 16).getLsbD i = gen.getLsbD i
    rw [BitVec.getLsbD_extractLsb']
    unfold macTablePack
    rw [BitVec.getLsbD_or, hbits, BitVec.getLsbD_shiftLeft, BitVec.getLsbD_setWidth]
    simp [hi, show ¬ 48 + i < 48 by omega, show 48 + i < 64 by omega, show i < 64 by omega]
  · apply BitVec.eq_of_getLsbD_eq
    intro i hi
    show ((macTablePack mac gen).extractLsb' 0 48).getLsbD i = mac.getLsbD i
    rw [BitVec.getLsbD_extractLsb']
    unfold macTablePack
    rw [BitVec.getLsbD_or, hbits, BitVec.getLsbD_shiftLeft]
    simp [hi]

variable {table : MacTable} {ip : BitVec 32} {mac : BitVec 48} {gen : BitVec 16}

/-! ### The entries, with their stamps -/

/-- The MAC and the stamp a word holds. -/
def macStamped (data : BitVec 64) : BitVec 48 × BitVec 16 :=
  ((macTableUnpack data).2, (macTableUnpack data).1)

def MacTable.stored (table : MacTable) (ip : BitVec 32) : Option (BitVec 48 × BitVec 16) :=
  (table.hash.lookup ip).map macStamped

def Nd6Table.stored (table : Nd6Table) (ipv6 : BitVec 128) : Option (BitVec 48 × BitVec 16) :=
  (table.hash.lookup ipv6).map fun e => macStamped e.data

theorem macStamped_pack (mac : BitVec 48) (gen : BitVec 16) :
    macStamped (macTablePack mac gen) = (mac, gen) := by
  unfold macStamped
  rw [macTableUnpack_pack]

/-- A lookup sees the entries of the current generation. -/
theorem macTableLookup_eq (table : MacTable) (ip : BitVec 32) :
    macTableLookup (some table) ip = Stamped.visible table.stored table.generation ip := by
  unfold macTableLookup Stamped.visible MacTable.stored
  simp only
  cases table.hash.lookup ip with
  | none => rfl
  | some data =>
      show (if (macTableUnpack data).1 ≠ table.generation then none
        else some (macTableUnpack data).2) = _
      simp only [Option.map_some]
      by_cases hgen : (macTableUnpack data).1 = table.generation
      · rw [if_neg (not_not.mpr hgen), macStamped, if_pos hgen]
      · rw [if_pos hgen, macStamped, if_neg hgen]

theorem nd6TableLookup_eq (table : Nd6Table) (ipv6 : BitVec 128) :
    nd6TableLookup table ipv6 = Stamped.visible table.stored table.generation ipv6 := by
  unfold nd6TableLookup Stamped.visible Nd6Table.stored
  cases table.hash.lookup ipv6 with
  | none => rfl
  | some e =>
      simp only [Option.map_some]
      by_cases hgen : (macTableUnpack e.data).1 = table.generation
      · rw [if_neg (not_not.mpr hgen), macStamped, if_pos hgen]
      · rw [if_pos hgen, macStamped, if_neg hgen]

/-! ### Learning -/

/-- An address that is there with the same word is left alone; otherwise the word is stored, unless
there is no room. -/
theorem macTableLearn_cases (table : MacTable) (ip : BitVec 32) (mac : BitVec 48) (room : Bool) :
    (table.hash.lookup ip = some (macTablePack mac table.generation) ∧
        macTableLearn table ip mac room = (true, table)) ∨
      macTableLearn table ip mac room =
        (true, { table with hash := table.hash.insert ip (macTablePack mac table.generation) }) ∨
      macTableLearn table ip mac room = (false, table) := by
  unfold macTableLearn
  simp only
  cases hlook : table.hash.lookup ip with
  | none =>
      cases room with
      | false => exact Or.inr (Or.inr rfl)
      | true => exact Or.inr (Or.inl rfl)
  | some data =>
      by_cases hdata : data = macTablePack mac table.generation
      · exact Or.inl ⟨congrArg some hdata, if_pos hdata⟩
      · exact Or.inr (Or.inl (if_neg hdata))

/-- A key is stored with the current generation, or nothing changes. -/
theorem stored_macTableLearn (table : MacTable) (ip : BitVec 32) (mac : BitVec 48) (room : Bool) :
    (macTableLearn table ip mac room).2.generation = table.generation ∧
      (macTableLearn table ip mac room).2.stored =
        if (macTableLearn table ip mac room).1 then
          Function.update table.stored ip (some (mac, table.generation))
        else table.stored := by
  rcases macTableLearn_cases table ip mac room with ⟨hlook, hlearn⟩ | hlearn | hlearn
  · have hthere : table.stored ip = some (mac, table.generation) := by
      unfold MacTable.stored
      rw [hlook, Option.map_some, macStamped_pack]
    rw [hlearn, if_pos rfl, ← hthere, Function.update_eq_self]
    exact ⟨rfl, rfl⟩
  · rw [hlearn, if_pos rfl]
    refine ⟨rfl, ?_⟩
    funext ip'
    unfold MacTable.stored
    by_cases hip : ip' = ip
    · subst hip
      rw [AList.lookup_insert, Function.update_self, Option.map_some, macStamped_pack]
    · rw [AList.lookup_insert_ne hip, Function.update_of_ne hip]
  · rw [hlearn]
    exact ⟨rfl, rfl⟩

theorem stored_nd6TableTouch (table : Nd6Table) (now : Nat) (position : Option Nat) :
    (nd6TableTouch table now position).generation = table.generation ∧
      (nd6TableTouch table now position).stored = table.stored := by
  unfold nd6TableTouch
  cases position with
  | none => exact ⟨rfl, rfl⟩
  | some position =>
      simp only
      by_cases hslot : table.slotCount ≤ position
      · rw [if_pos hslot]
        exact ⟨rfl, rfl⟩
      · rw [if_neg hslot]
        exact ⟨rfl, rfl⟩

theorem stored_nd6AddKeyData {table table' : Nd6Table} {ipv6 : BitVec 128} {data : BitVec 64}
    {room : Option Nat} (h : nd6AddKeyData table ipv6 data room = some table') :
    table'.generation = table.generation ∧
      table'.stored = Function.update table.stored ipv6 (some (macStamped data)) := by
  have hinsert : ∀ e : Nd6Entry, e.data = data →
      ({ table with hash := table.hash.insert ipv6 e } : Nd6Table).stored =
        Function.update table.stored ipv6 (some (macStamped data)) := by
    intro e he
    funext ip'
    unfold Nd6Table.stored
    by_cases hip : ip' = ipv6
    · subst hip
      rw [AList.lookup_insert, Function.update_self, Option.map_some, he]
    · rw [AList.lookup_insert_ne hip, Function.update_of_ne hip]
  unfold nd6AddKeyData at h
  cases hlook : table.hash.lookup ipv6 with
  | some e =>
      simp only [hlook] at h
      rw [← Option.some.inj h]
      exact ⟨rfl, hinsert _ rfl⟩
  | none =>
      simp only [hlook] at h
      cases room with
      | none => exact absurd h (by simp)
      | some position =>
          by_cases hvacant : table.vacant position = true
          · simp only [if_pos hvacant] at h
            rw [← Option.some.inj h]
            exact ⟨rfl, hinsert _ rfl⟩
          · simp only [if_neg hvacant] at h
            exact absurd h (by simp)

theorem stored_nd6TableLearn (table : Nd6Table) (ipv6 : BitVec 128) (mac : BitVec 48) (now : Nat)
    (room room' : Option Nat) :
    (nd6TableLearn table ipv6 mac now room room').2.generation = table.generation ∧
      (nd6TableLearn table ipv6 mac now room room').2.stored =
        if (nd6TableLearn table ipv6 mac now room room').1 then
          Function.update table.stored ipv6 (some (mac, table.generation))
        else table.stored := by
  have hadded : ∀ {table' : Nd6Table} {room : Option Nat},
      nd6AddKeyData table ipv6 (macTablePack mac table.generation) room = some table' →
      (nd6TableTouch table' now (table'.positionOf ipv6)).generation = table.generation ∧
        (nd6TableTouch table' now (table'.positionOf ipv6)).stored =
          Function.update table.stored ipv6 (some (mac, table.generation)) := by
    intro table' room hadd
    obtain ⟨hgen, hstored⟩ := stored_nd6AddKeyData hadd
    obtain ⟨htgen, htstored⟩ := stored_nd6TableTouch table' now (table'.positionOf ipv6)
    rw [htgen, htstored, hgen, hstored, macStamped_pack]
    exact ⟨rfl, rfl⟩
  unfold nd6TableLearn
  simp only
  by_cases hsame : (table.hash.lookup ipv6).map Nd6Entry.data =
      some (macTablePack mac table.generation)
  · rw [if_pos hsame]
    obtain ⟨e, he, hdata⟩ := Option.map_eq_some_iff.mp hsame
    have hthere : table.stored ipv6 = some (mac, table.generation) := by
      unfold Nd6Table.stored
      rw [he, Option.map_some, hdata, macStamped_pack]
    obtain ⟨htgen, htstored⟩ := stored_nd6TableTouch table now (table.positionOf ipv6)
    refine ⟨htgen, ?_⟩
    rw [if_pos rfl, ← hthere, Function.update_eq_self]
    exact htstored
  · rw [if_neg hsame]
    cases hadd : nd6AddKeyData table ipv6 (macTablePack mac table.generation) room with
    | some table' => exact hadded hadd
    | none =>
        cases hadd' : nd6AddKeyData table ipv6 (macTablePack mac table.generation) room' with
        | some table' => exact hadded hadd'
        | none => exact ⟨rfl, rfl⟩

/-! ### Sweeping -/

/-- The entry is of the current generation. -/
def Nd6Table.Current (table : Nd6Table) (e : Nd6Entry) : Prop :=
  (macTableUnpack e.data).1 = table.generation

/-- The entry has been idle for longer than `ND6_NEIGHBOR_TTL_SEC`. -/
def Nd6Table.Idle (hz now : Nat) (table : Nd6Table) (e : Nd6Entry) : Prop :=
  table.lastSeen e.position + nd6NeighborTtlSec * hz < now

/-- What a sweep does with a key. -/
inductive AgeVisit (hz now : Nat) (sent : Bool) (table : Nd6Table) (ipv6 : BitVec 128) :
    Nd6Table → List Nd6Act → Prop
  | same : AgeVisit hz now sent table ipv6 table []
  | swept : AgeVisit hz now sent table ipv6
      { table with hash := table.hash.erase ipv6 } [.swept ipv6]
  | aged {e : Nd6Entry} (hlook : table.hash.lookup ipv6 = some e) (hcurrent : table.Current e)
      (hidle : table.Idle hz now e) (hprobed : table.probed e.position = true) :
      AgeVisit hz now sent table ipv6 { table with hash := table.hash.erase ipv6 } [.aged ipv6]
  | probed {e : Nd6Entry} (hlook : table.hash.lookup ipv6 = some e) (hcurrent : table.Current e)
      (hidle : table.Idle hz now e) (hprobed : table.probed e.position = false) :
      AgeVisit hz now sent table ipv6
        { table with probed := Function.update table.probed e.position true }
        [.probed ipv6 sent]

theorem nd6AgeVisit_visit (hz now : Nat) (gateReady : Bool) (tx : BitVec 128 → Bool)
    (table : Nd6Table) (acts : List Nd6Act) (ipv6 : BitVec 128) :
    ∃ table' done, AgeVisit hz now (gateReady && tx ipv6) table ipv6 table' done ∧
      nd6AgeVisit hz now gateReady tx (table, acts) ipv6 = (table', acts ++ done) := by
  have hsame : (table, acts) = (table, acts ++ []) := by rw [List.append_nil]
  unfold nd6AgeVisit
  simp only
  cases hlook : table.hash.lookup ipv6 with
  | none => exact ⟨table, [], .same, hsame⟩
  | some e =>
      simp only
      by_cases hgen : (macTableUnpack e.data).1 ≠ table.generation
      · rw [if_pos hgen]
        exact ⟨_, _, .swept, rfl⟩
      rw [if_neg hgen]
      by_cases hkeep : table.slotCount ≤ e.position ∨
          now ≤ table.lastSeen e.position + nd6NeighborTtlSec * hz
      · rw [if_pos hkeep]
        exact ⟨table, [], .same, hsame⟩
      rw [if_neg hkeep]
      have hidle : table.Idle hz now e := Nat.lt_of_not_le fun h => hkeep (Or.inr h)
      by_cases hprobed : table.probed e.position = true
      · rw [if_pos hprobed]
        exact ⟨_, _, .aged hlook (not_not.mp hgen) hidle hprobed, rfl⟩
      · rw [if_neg hprobed]
        exact ⟨_, _, .probed hlook (not_not.mp hgen) hidle (Bool.not_eq_true _ ▸ hprobed), rfl⟩

/-- In the course of a sweep entries only go and marks only come. -/
structure Swept (table table' : Nd6Table) : Prop where
  generation : table'.generation = table.generation
  lastSeen : table'.lastSeen = table.lastSeen
  hash : ∀ ipv6 e, table'.hash.lookup ipv6 = some e → table.hash.lookup ipv6 = some e
  probed : ∀ p, table.probed p = true → table'.probed p = true

theorem Swept.refl (table : Nd6Table) : Swept table table :=
  ⟨rfl, rfl, fun _ _ h => h, fun _ h => h⟩

theorem Swept.trans {table table' table'' : Nd6Table} (h : Swept table table')
    (h' : Swept table' table'') : Swept table table'' :=
  ⟨h'.generation.trans h.generation, h'.lastSeen.trans h.lastSeen,
    fun ipv6 e he => h.hash ipv6 e (h'.hash ipv6 e he), fun p hp => h'.probed p (h.probed p hp)⟩

theorem lookup_of_erase {hash : AList (fun _ : BitVec 128 => Nd6Entry)} {ipv6 ip' : BitVec 128}
    {e : Nd6Entry} (h : (hash.erase ip').lookup ipv6 = some e) : hash.lookup ipv6 = some e := by
  by_cases hip : ipv6 = ip'
  · subst hip
    rw [AList.lookup_erase] at h
    exact absurd h (by simp)
  · rw [AList.lookup_erase_ne hip] at h
    exact h

theorem AgeVisit.swept_table {hz now : Nat} {sent : Bool} {table table' : Nd6Table}
    {ipv6 : BitVec 128} {done : List Nd6Act} (h : AgeVisit hz now sent table ipv6 table' done) :
    Swept table table' := by
  cases h with
  | same => exact .refl table
  | swept => exact ⟨rfl, rfl, fun _ _ h => lookup_of_erase h, fun _ h => h⟩
  | aged => exact ⟨rfl, rfl, fun _ _ h => lookup_of_erase h, fun _ h => h⟩
  | @probed e =>
      refine ⟨rfl, rfl, fun _ _ h => h, ?_⟩
      intro p hp
      by_cases hpos : p = e.position
      · subst hpos
        exact Function.update_self ..
      · exact (Function.update_of_ne hpos true table.probed).trans hp

/-- What every visit keeps, a sweep keeps. -/
theorem nd6AgeScanTable_inv (hz now : Nat) (gateReady : Bool) (tx : BitVec 128 → Bool)
    (start : Nd6Table) (I : Nd6Table → List Nd6Act → Prop) (hstart : I start [])
    (hvisit : ∀ table acts ipv6 table' done, I table acts → Swept start table →
      AgeVisit hz now (gateReady && tx ipv6) table ipv6 table' done → I table' (acts ++ done)) :
    I (nd6AgeScanTable hz now gateReady tx start).1 (nd6AgeScanTable hz now gateReady tx start).2 ∧
      Swept start (nd6AgeScanTable hz now gateReady tx start).1 := by
  have hfold : ∀ (keys : List (BitVec 128)) (table : Nd6Table) (acts : List Nd6Act),
      I table acts → Swept start table →
      I (keys.foldl (nd6AgeVisit hz now gateReady tx) (table, acts)).1
          (keys.foldl (nd6AgeVisit hz now gateReady tx) (table, acts)).2 ∧
        Swept start (keys.foldl (nd6AgeVisit hz now gateReady tx) (table, acts)).1 := by
    intro keys
    induction keys with
    | nil => intro table acts hI hswept; exact ⟨hI, hswept⟩
    | cons ipv6 keys ih =>
        intro table acts hI hswept
        obtain ⟨table', done, hdone, hstep⟩ :=
          nd6AgeVisit_visit hz now gateReady tx table acts ipv6
        rw [List.foldl_cons, hstep]
        exact ih table' _ (hvisit table acts ipv6 table' done hI hswept hdone)
          (hswept.trans hdone.swept_table)
  exact hfold start.hash.keys start [] hstart (.refl start)

theorem swept_nd6AgeScanTable (hz now : Nat) (gateReady : Bool) (tx : BitVec 128 → Bool)
    (table : Nd6Table) : Swept table (nd6AgeScanTable hz now gateReady tx table).1 :=
  (nd6AgeScanTable_inv hz now gateReady tx table (fun _ _ => True) trivial
    fun _ _ _ _ _ _ _ _ => trivial).2

/-! ### Iterating -/

/-- An entry of the hash, as a caller sees it. -/
def macSeen (gen : BitVec 16) (e : Sigma fun _ : BitVec 32 => BitVec 64) :
    Option (BitVec 32 × BitVec 48) :=
  if (macTableUnpack e.2).1 ≠ gen then none else some (e.1, (macTableUnpack e.2).2)

/-- One call gives the first entry that can be seen, and the cursor behind it. -/
theorem macTableIterateFrom_cases (gen : BitVec 16)
    (entries : List (Sigma fun _ : BitVec 32 => BitVec 64)) (next : Nat) :
    (macTableIterateFrom gen entries next = none ∧ entries.filterMap (macSeen gen) = []) ∨
      ∃ ip mac k, k < entries.length ∧
        macTableIterateFrom gen entries next = some (ip, mac, next + (k + 1)) ∧
        entries.filterMap (macSeen gen) =
          (ip, mac) :: (entries.drop (k + 1)).filterMap (macSeen gen) := by
  induction entries generalizing next with
  | nil => exact Or.inl ⟨rfl, rfl⟩
  | cons e rest ih =>
      obtain ⟨ip, data⟩ := e
      unfold macTableIterateFrom
      by_cases hgen : (macTableUnpack data).1 ≠ gen
      · have hskip : macSeen gen ⟨ip, data⟩ = none := if_pos hgen
        rw [if_pos hgen, List.filterMap_cons_none hskip]
        rcases ih (next + 1) with hnone | ⟨ip', mac, k, hk, hcall, hseen⟩
        · exact Or.inl hnone
        · refine Or.inr ⟨ip', mac, k + 1, Nat.succ_lt_succ hk, ?_, hseen⟩
          rw [hcall, show next + 1 + (k + 1) = next + (k + 1 + 1) by omega]
      · have hsee : macSeen gen ⟨ip, data⟩ = some (ip, (macTableUnpack data).2) := if_neg hgen
        rw [if_neg hgen, List.filterMap_cons_some hsee]
        exact Or.inr ⟨ip, _, 0, Nat.succ_pos _, rfl, rfl⟩

/-- Calls until nothing comes give every entry that can be seen. -/
theorem macTableWalk_eq (table : MacTable) (calls next : Nat)
    (h : (table.hash.entries.drop next).length < calls) :
    macTableWalk table calls next =
      (table.hash.entries.drop next).filterMap (macSeen table.generation) := by
  induction calls generalizing next with
  | zero => exact absurd h (Nat.not_lt_zero _)
  | succ calls ih =>
      unfold macTableWalk macTableIterate
      rcases macTableIterateFrom_cases table.generation (table.hash.entries.drop next) next with
        ⟨hcall, hseen⟩ | ⟨ip, mac, k, hk, hcall, hseen⟩
      · rw [hcall, hseen]
      · rw [hcall, hseen]
        simp only [List.drop_drop] at *
        rw [ih (next + (k + 1))]
        rw [List.length_drop] at h hk ⊢
        omega

theorem macTableWalk_nodup (table : MacTable) {calls : Nat}
    (h : table.hash.entries.length < calls) :
    ((macTableWalk table calls 0).map Prod.fst).Nodup := by
  have hsub : ∀ entries : List (Sigma fun _ : BitVec 32 => BitVec 64),
      ((entries.filterMap (macSeen table.generation)).map Prod.fst).Sublist
        (entries.map Sigma.fst) := by
    intro entries
    induction entries with
    | nil => exact List.Sublist.slnil
    | cons e rest ih =>
        by_cases hgen : (macTableUnpack e.2).1 ≠ table.generation
        · have hskip : macSeen table.generation e = none := if_pos hgen
          rw [List.filterMap_cons_none hskip, List.map_cons]
          exact ih.cons _
        · have hsee : macSeen table.generation e = some (e.1, (macTableUnpack e.2).2) :=
            if_neg hgen
          rw [List.filterMap_cons_some hsee, List.map_cons, List.map_cons]
          exact ih.cons_cons _
  rw [macTableWalk_eq table calls 0 h]
  exact (hsub _).nodup table.hash.keys_nodup

theorem mem_macTableWalk (table : MacTable) {calls : Nat} (h : table.hash.entries.length < calls)
    (ip : BitVec 32) (mac : BitVec 48) :
    (ip, mac) ∈ macTableWalk table calls 0 ↔ macTableLookup (some table) ip = some mac := by
  rw [macTableWalk_eq table calls 0 h, macTableLookup_eq, Stamped.visible_eq_some,
    List.drop_zero, List.mem_filterMap]
  unfold MacTable.stored
  rw [Option.map_eq_some_iff]
  refine ⟨?_, ?_⟩
  · intro ⟨⟨ip', data⟩, hmem, hseen⟩
    unfold macSeen at hseen
    by_cases hgen : (macTableUnpack data).1 ≠ table.generation
    · rw [if_pos hgen] at hseen
      exact absurd hseen (by simp)
    · rw [if_neg hgen] at hseen
      have hpair := Prod.mk.inj (Option.some.inj hseen)
      obtain ⟨rfl, rfl⟩ := hpair
      exact ⟨data, AList.mem_lookup_iff.mpr hmem, Prod.ext rfl (not_not.mp hgen)⟩
  · intro ⟨data, hlook, hdata⟩
    have hpair := Prod.mk.inj hdata
    refine ⟨⟨ip, data⟩, AList.mem_lookup_iff.mp hlook, ?_⟩
    unfold macSeen
    rw [if_neg (not_not.mpr hpair.2), hpair.1]

/-! ### Runs -/

/-- A table, and what it should know: for each address the MAC it was learned with last since the
last reset. -/
structure MacRun where
  table : MacTable
  latest : BitVec 32 → Option (BitVec 48)

def MacRun.step (r : MacRun) (op : MacOp) : MacRun :=
  { table := r.table.step op
    latest :=
      match op with
      | .learn ip mac room =>
          if (macTableLearn r.table ip mac room).1 then Function.update r.latest ip (some mac)
          else r.latest
      | .reset => fun _ => none
      | .lookup _ => r.latest
      | .iterate _ => r.latest }

structure Nd6TableRun where
  table : Nd6Table
  latest : BitVec 128 → Option (BitVec 48)

def Nd6TableRun.step (hz : Nat) (r : Nd6TableRun) (op : Nd6TableOp) : Nd6TableRun :=
  { table := r.table.step hz op
    latest :=
      match op with
      | .learn ipv6 mac now room room' =>
          if (nd6TableLearn r.table ipv6 mac now room room').1 then
            Function.update r.latest ipv6 (some mac)
          else r.latest
      | .reset => fun _ => none
      | .lookup _ => r.latest
      | .ageScan _ _ _ => r.latest }

/-- No entry carries the generation a reset comes to. -/
def MacTable.NextUnused (table : MacTable) : Prop :=
  ∀ ip mac, table.stored ip ≠ some (mac, table.generation + 1)

def Nd6Table.NextUnused (table : Nd6Table) : Prop :=
  ∀ ipv6 mac, table.stored ipv6 ≠ some (mac, table.generation + 1)

/-- A reset comes to a generation that no entry carries. -/
def MacRun.Resettable (r : MacRun) (op : MacOp) : Prop := op = .reset → r.table.NextUnused

def Nd6TableRun.Resettable (r : Nd6TableRun) (op : Nd6TableOp) : Prop :=
  op = .reset → r.table.NextUnused

def MacRun.Fresh (r : MacRun) : Prop := Stamped.Fresh r.table.stored r.table.generation r.latest

def Nd6TableRun.Fresh (r : Nd6TableRun) : Prop :=
  Stamped.Fresh r.table.stored r.table.generation r.latest

theorem MacRun.fresh_step (r : MacRun) (op : MacOp) (h : r.Fresh) (hop : r.Resettable op) :
    (r.step op).Fresh := by
  cases op with
  | learn ip mac room =>
      obtain ⟨hgen, hstored⟩ := stored_macTableLearn r.table ip mac room
      show Stamped.Fresh (macTableLearn r.table ip mac room).2.stored
        (macTableLearn r.table ip mac room).2.generation
        (if (macTableLearn r.table ip mac room).1 then Function.update r.latest ip (some mac)
          else r.latest)
      rw [hgen, hstored]
      by_cases hok : (macTableLearn r.table ip mac room).1 = true
      · rw [if_pos hok, if_pos hok]
        exact Stamped.Fresh.store h ip mac
      · rw [if_neg hok, if_neg hok]
        exact h
  | lookup ip => exact h
  | reset => exact Stamped.fresh_raise _ (hop rfl)
  | iterate next => exact h

theorem Nd6TableRun.fresh_step (hz : Nat) (r : Nd6TableRun) (op : Nd6TableOp) (h : r.Fresh)
    (hop : r.Resettable op) : (r.step hz op).Fresh := by
  cases op with
  | learn ipv6 mac now room room' =>
      obtain ⟨hgen, hstored⟩ := stored_nd6TableLearn r.table ipv6 mac now room room'
      show Stamped.Fresh (nd6TableLearn r.table ipv6 mac now room room').2.stored
        (nd6TableLearn r.table ipv6 mac now room room').2.generation
        (if (nd6TableLearn r.table ipv6 mac now room room').1 then
          Function.update r.latest ipv6 (some mac) else r.latest)
      rw [hgen, hstored]
      by_cases hok : (nd6TableLearn r.table ipv6 mac now room room').1 = true
      · rw [if_pos hok, if_pos hok]
        exact Stamped.Fresh.store h ipv6 mac
      · rw [if_neg hok, if_neg hok]
        exact h
  | lookup ipv6 => exact h
  | reset => exact Stamped.fresh_raise _ (hop rfl)
  | ageScan now gateReady tx =>
      have hswept := swept_nd6AgeScanTable hz now gateReady tx r.table
      show Stamped.Fresh (nd6AgeScanTable hz now gateReady tx r.table).1.stored
        (nd6AgeScanTable hz now gateReady tx r.table).1.generation r.latest
      rw [hswept.generation]
      refine Stamped.Fresh.mono h ?_
      intro ipv6 mac gen hstored
      obtain ⟨e, he, hdata⟩ := Option.map_eq_some_iff.mp hstored
      exact Option.map_eq_some_iff.mpr ⟨e, hswept.hash ipv6 e he, hdata⟩

/-! ### Forgetting -/

/-- A new table, of which nothing should be known. -/
def MacRun.start : MacRun := ⟨.alloc, fun _ => none⟩

def Nd6TableRun.start (slotCount : Nat) : Nd6TableRun := ⟨.alloc slotCount, fun _ => none⟩

/--
**Both tables forget on reset.**

In every run in which no reset comes to a generation that an entry carries, a lookup gives a MAC
only if it is the last that was learned for that address since the last reset.  Iterating over a
table gives what lookup finds, each address once.  The condition on a reset is exact: after it
nothing is found if and only if no entry carries the generation it came to.
-/
theorem neighbour_tables_forget (hz slotCount : Nat) {macOps : List MacOp} {m : MacRun}
    (hm : Run MacRun.step MacRun.Resettable .start macOps m) {nd6Ops : List Nd6TableOp}
    {n : Nd6TableRun}
    (hn : Run (Nd6TableRun.step hz) Nd6TableRun.Resettable (.start slotCount) nd6Ops n) :
    (∀ ip mac, macTableLookup (some m.table) ip = some mac → m.latest ip = some mac) ∧
      (∀ ipv6 mac, nd6TableLookup n.table ipv6 = some mac → n.latest ipv6 = some mac) ∧
      (∀ calls, m.table.hash.entries.length < calls →
        ((macTableWalk m.table calls 0).map Prod.fst).Nodup ∧
          ∀ ip mac, (ip, mac) ∈ macTableWalk m.table calls 0 ↔
            macTableLookup (some m.table) ip = some mac) ∧
      ((∀ ip, macTableLookup (some (macTableReset m.table)) ip = none) ↔ m.table.NextUnused) ∧
      ((∀ ipv6, nd6TableLookup (nd6TableReset n.table) ipv6 = none) ↔ n.table.NextUnused) := by
  have hmac : m.Fresh := hm.inv MacRun.Fresh MacRun.fresh_step (Stamped.fresh_nothing _ _)
  have hnd6 : n.Fresh :=
    hn.inv Nd6TableRun.Fresh (Nd6TableRun.fresh_step hz) (Stamped.fresh_nothing _ _)
  refine ⟨?_, ?_, ?_, ?_, ?_⟩
  · intro ip mac hlook
    rw [macTableLookup_eq] at hlook
    exact hmac ip mac (Stamped.visible_eq_some.mp hlook)
  · intro ipv6 mac hlook
    rw [nd6TableLookup_eq] at hlook
    exact hnd6 ipv6 mac (Stamped.visible_eq_some.mp hlook)
  · intro calls hcalls
    exact ⟨macTableWalk_nodup m.table hcalls, mem_macTableWalk m.table hcalls⟩
  · simp only [macTableLookup_eq]
    exact Stamped.visible_raise_iff
  · simp only [nd6TableLookup_eq]
    exact Stamped.visible_raise_iff

/-- A lesson after a reset is what is known. -/
theorem neighbour_tables_forget_lesson :
    macTableLookup (some ([.reset, .learn 1 2 true].foldl MacRun.step .start).table) 1 = some 2 ∧
      ([.reset, .learn 1 2 true].foldl MacRun.step .start).latest 1 = some 2 ∧
      ([.reset, .learn 1 2 0 (some 0) none].foldl (Nd6TableRun.step 1) (.start 1)).latest 1 =
        some 2 := by
  have hm : Run MacRun.step MacRun.Resettable .start ([MacOp.reset] ++ [.learn 1 2 true])
      ((MacRun.start.step .reset).step (.learn 1 2 true)) := by
    refine (Run.single MacOp.reset ?_).snoc (.learn 1 2 true) ?_
    · intro _ ip mac h
      exact absurd h (by simp [MacRun.start, MacTable.alloc, MacTable.stored])
    · intro h
      exact absurd h (by simp)
  have hn : Run (Nd6TableRun.step 1) Nd6TableRun.Resettable (.start 1)
      ([Nd6TableOp.reset] ++ [.learn 1 2 0 (some 0) none])
      (((Nd6TableRun.start 1).step 1 .reset).step 1 (.learn 1 2 0 (some 0) none)) := by
    refine (Run.single Nd6TableOp.reset ?_).snoc (.learn 1 2 0 (some 0) none) ?_
    · intro _ ipv6 mac h
      exact absurd h (by simp [Nd6TableRun.start, Nd6Table.alloc, Nd6Table.stored])
    · intro h
      exact absurd h (by simp)
  have h := neighbour_tables_forget 1 1 hm hn
  exact ⟨by decide, h.1 1 2 (by decide), h.2.1 1 2 (by decide)⟩

theorem table_resets (r : MacRun) (n : Nat) :
    ((List.replicate n MacOp.reset).foldl MacRun.step r).table =
      { r.table with generation := r.table.generation + BitVec.ofNat 16 n } := by
  induction n with
  | zero =>
      show r.table = _
      rw [BitVec.add_zero]
  | succ n ih =>
      rw [List.replicate_succ', List.foldl_append, List.foldl_cons, List.foldl_nil]
      show macTableReset ((List.replicate n MacOp.reset).foldl MacRun.step r).table = _
      rw [ih, macTableReset]
      simp only [MacTable.mk.injEq, true_and]
      rw [BitVec.add_assoc]
      exact congrArg _ (BitVec.ofNat_add n 1).symm

theorem latest_resets (r : MacRun) {n : Nat} (hn : n ≠ 0) (ip : BitVec 32) :
    ((List.replicate n MacOp.reset).foldl MacRun.step r).latest ip = none := by
  obtain ⟨n, rfl⟩ := Nat.exists_eq_succ_of_ne_zero hn
  rw [List.replicate_succ', List.foldl_append, List.foldl_cons, List.foldl_nil]
  rfl

/-- An address learned once is found again after 65536 resets. -/
theorem macTable_remembers :
    macTableLookup (some ((List.replicate 65536 MacOp.reset).foldl MacRun.step
        (MacRun.start.step (.learn 1 2 true))).table) 1 = some 2 ∧
      ((List.replicate 65536 MacOp.reset).foldl MacRun.step
        (MacRun.start.step (.learn 1 2 true))).latest 1 = none := by
  have hwrap : BitVec.ofNat 16 65536 = 0#16 := rfl
  refine ⟨?_, latest_resets _ (by decide) 1⟩
  rw [table_resets, hwrap, BitVec.add_zero]
  decide

end FastRG
