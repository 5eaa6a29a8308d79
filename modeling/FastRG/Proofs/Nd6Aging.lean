/-
When an idle neighbour is given up.

A run leaves a history: who was heard, whose MAC was learned, who was asked and whether the
question went out, and who was deleted for its age.  Everything the table keeps about age is read
from that history: the time at an entry's position is that of the last lesson of its address, and
the mark says that it has been asked since, after it had been idle for too long.  So a position that
is given to another address brings nothing along.

That much holds in every run.  That the question went out, and that nothing was heard of the host
after it, holds in the runs that are `Fair`: whoever is marked is really asked, and what is heard
of a marked host teaches its MAC again.
-/
import FastRG.Proofs.MacTable
import Mathlib.Data.List.Basic

namespace FastRG

variable {hz : Nat} {F F' : Prop} {table table' : Nd6Table} {ipv6 ip' : BitVec 128} {t t₀ now : Nat}

/-! ### Histories -/

/-- What there is to tell of a subscriber's neighbours. -/
inductive Nd6Event
  /-- A valid solicitation or advertisement of an address came in. -/
  | heard (ipv6 : BitVec 128)
  | act (a : Nd6Act)
  deriving DecidableEq

/-- The events of a run with their times, the earliest first. -/
abbrev Nd6History := List (Nat × Nd6Event)

variable {history since ev : Nd6History}

/-- The last lesson of an address, and what came since. -/
def LastLearned (history : Nd6History) (ipv6 : BitVec 128) (t₀ : Nat) (since : Nd6History) : Prop :=
  (∃ before, history = before ++ (t₀, .act (.learned ipv6)) :: since) ∧
    ∀ t, (t, .act (.learned ipv6)) ∉ since

/-- The host has been asked after it had been idle for longer than `ND6_NEIGHBOR_TTL_SEC`.  Where
`F` holds the question went out, and nothing was heard of the host after it. -/
def AskedSince (hz : Nat) (F : Prop) (ipv6 : BitVec 128) (t₀ : Nat) (since : Nd6History) : Prop :=
  ∃ between t₁ sent after, since = between ++ (t₁, .act (.probed ipv6 sent)) :: after ∧
    t₀ + nd6NeighborTtlSec * hz < t₁ ∧ (F → sent = true ∧ ∀ t, (t, .heard ipv6) ∉ after)

/-- Whoever was deleted for its age had been idle for longer than `ND6_NEIGHBOR_TTL_SEC`, and asked
after that. -/
def AgedAsked (hz : Nat) (F : Prop) (history : Nd6History) : Prop :=
  ∀ pre post t ipv6, history = pre ++ (t, .act (.aged ipv6)) :: post →
    ∃ t₀ since, LastLearned pre ipv6 t₀ since ∧ t₀ + nd6NeighborTtlSec * hz < t ∧
      AskedSince hz F ipv6 t₀ since

theorem AskedSince.mono (h : AskedSince hz F ipv6 t₀ since) (hF : F' → F) :
    AskedSince hz F' ipv6 t₀ since := by
  obtain ⟨between, t₁, sent, after, hsince, hidle, hfair⟩ := h
  exact ⟨between, t₁, sent, after, hsince, hidle, fun h => hfair (hF h)⟩

/-- More has happened, but nothing was learned of the address. -/
theorem LastLearned.append (h : LastLearned history ipv6 t₀ since)
    (hev : ∀ t, (t, .act (.learned ipv6)) ∉ ev) :
    LastLearned (history ++ ev) ipv6 t₀ (since ++ ev) := by
  obtain ⟨⟨before, hbefore⟩, hlast⟩ := h
  refine ⟨⟨before, ?_⟩, ?_⟩
  · rw [hbefore, List.append_assoc, List.cons_append]
  · intro t hmem
    exact (List.mem_append.mp hmem).elim (hlast t) (hev t)

theorem AskedSince.append (h : AskedSince hz F ipv6 t₀ since)
    (hev : F → ∀ t, (t, .heard ipv6) ∉ ev) : AskedSince hz F ipv6 t₀ (since ++ ev) := by
  obtain ⟨between, t₁, sent, after, hsince, hidle, hfair⟩ := h
  refine ⟨between, t₁, sent, after ++ ev, ?_, hidle, ?_⟩
  · rw [hsince, List.append_assoc, List.cons_append]
  · intro hF
    refine ⟨(hfair hF).1, ?_⟩
    intro t hmem
    exact (List.mem_append.mp hmem).elim ((hfair hF).2 t) (hev hF t)

/-- An event that is not among the last ones was there before them. -/
theorem split_append {x : Nat × Nd6Event} {pre post : Nd6History}
    (h : history ++ ev = pre ++ x :: post) (hx : x ∉ ev) :
    ∃ post', history = pre ++ x :: post' := by
  rcases List.append_eq_append_iff.mp h with ⟨as, -, hev⟩ | ⟨bs, hhist, hpost⟩
  · exact absurd (hev ▸ List.mem_append_right as List.mem_cons_self) hx
  · cases bs with
    | nil =>
        rw [List.nil_append] at hpost
        exact absurd (hpost ▸ List.mem_cons_self) hx
    | cons b bs =>
        rw [List.cons_append] at hpost
        exact ⟨bs, (List.cons.inj hpost).1 ▸ hhist⟩

theorem AgedAsked.append (h : AgedAsked hz F history)
    (hev : ∀ t ipv6, (t, .act (.aged ipv6)) ∉ ev) : AgedAsked hz F (history ++ ev) := by
  intro pre post t ipv6 hsplit
  obtain ⟨post', hpost⟩ := split_append hsplit (hev t ipv6)
  exact h pre post' t ipv6 hpost

/-- The last event is that an address was deleted for its age. -/
theorem AgedAsked.snoc (h : AgedAsked hz F history) (hlast : LastLearned history ipv6 t₀ since)
    (hidle : t₀ + nd6NeighborTtlSec * hz < t) (hasked : AskedSince hz F ipv6 t₀ since) :
    AgedAsked hz F (history ++ [(t, .act (.aged ipv6))]) := by
  intro pre post t' ip' hsplit
  by_cases hpost : post = []
  · subst hpost
    obtain ⟨hpre, hev⟩ := List.append_inj' hsplit rfl
    have hpair := Prod.mk.inj (List.cons.inj hev).1
    obtain ⟨rfl, hact⟩ := hpair
    obtain rfl : ipv6 = ip' := by
      have hinj := Nd6Event.act.inj hact
      exact Nd6Act.aged.inj hinj
    rw [← hpre]
    exact ⟨t₀, since, hlast, hidle, hasked⟩
  · obtain ⟨post', e, rfl⟩ := List.eq_nil_or_concat post |>.resolve_left hpost
    rw [List.concat_eq_append, ← List.cons_append, ← List.append_assoc] at hsplit
    exact h pre post' t' ip' (List.append_inj' hsplit rfl).1

/-! ### What the table keeps -/

/-- The position of every entry keeps the time of its own last lesson, and a mark there says that
its host has been asked since. -/
def Nd6Table.OwnAges (hz : Nat) (F : Prop) (table : Nd6Table) (history : Nd6History) : Prop :=
  ∀ ipv6 e, table.hash.lookup ipv6 = some e →
    ∃ since, LastLearned history ipv6 (table.lastSeen e.position) since ∧
      (table.probed e.position = true →
        AskedSince hz (F ∧ table.Current e) ipv6 (table.lastSeen e.position) since)

/-- What holds of a table and its history in every run. -/
structure Aging (hz : Nat) (F : Prop) (table : Nd6Table) (history : Nd6History) : Prop where
  slot : ∀ ipv6 e, table.hash.lookup ipv6 = some e → e.position < table.slotCount
  inj : ∀ ipv6 ip' e e', table.hash.lookup ipv6 = some e → table.hash.lookup ip' = some e' →
    e.position = e'.position → ipv6 = ip'
  ages : table.OwnAges hz F history
  aged : AgedAsked hz F history

/-- Entries go, and the rest stays as it is. -/
theorem Aging.erase (h : Aging hz F table history) (ipv6 : BitVec 128) :
    Aging hz F { table with hash := table.hash.erase ipv6 } history := by
  refine ⟨?_, ?_, ?_, h.aged⟩
  · intro ip' e hlook
    exact h.slot ip' e (lookup_of_erase hlook)
  · intro ip₁ ip₂ e e' hlook hlook'
    exact h.inj ip₁ ip₂ e e' (lookup_of_erase hlook) (lookup_of_erase hlook')
  · intro ip' e hlook
    exact h.ages ip' e (lookup_of_erase hlook)

/-- Events that say nothing of a lesson or a deletion.  What is heard is not of a marked host. -/
theorem Aging.append (h : Aging hz F table history)
    (hlearned : ∀ t ipv6, (t, .act (.learned ipv6)) ∉ ev)
    (haged : ∀ t ipv6, (t, .act (.aged ipv6)) ∉ ev)
    (hheard : F → ∀ ipv6 e, table.hash.lookup ipv6 = some e → table.Current e →
      table.probed e.position = true → ∀ t, (t, .heard ipv6) ∉ ev) :
    Aging hz F table (history ++ ev) := by
  refine ⟨h.slot, h.inj, ?_, h.aged.append haged⟩
  intro ipv6 e hlook
  obtain ⟨since, hlast, hmark⟩ := h.ages ipv6 e hlook
  refine ⟨since ++ ev, hlast.append fun t => hlearned t ipv6, ?_⟩
  intro hprobed
  exact (hmark hprobed).append fun hF => hheard hF.1 ipv6 e hlook hF.2 hprobed

/-- An idle entry that is marked is deleted. -/
theorem Aging.delete (h : Aging hz F table history) {e : Nd6Entry}
    (hlook : table.hash.lookup ipv6 = some e) (hcurrent : table.Current e)
    (hidle : table.Idle hz now e)
    (hprobed : table.probed e.position = true) :
    Aging hz F { table with hash := table.hash.erase ipv6 }
      (history ++ [(now, .act (.aged ipv6))]) := by
  obtain ⟨since, hlast, hmark⟩ := h.ages ipv6 e hlook
  have herased := h.erase ipv6
  refine ⟨herased.slot, herased.inj, ?_, ?_⟩
  · intro ip' e' hlook'
    obtain ⟨since', hlast', hmark'⟩ := herased.ages ip' e' hlook'
    refine ⟨since' ++ [(now, .act (.aged ipv6))], hlast'.append ?_, ?_⟩
    · intro t hmem
      exact absurd (List.mem_singleton.mp hmem) (by simp)
    · intro hprobed'
      refine (hmark' hprobed').append ?_
      intro _ t hmem
      exact absurd (List.mem_singleton.mp hmem) (by simp)
  · exact h.aged.snoc hlast hidle ((hmark hprobed).mono fun hF => ⟨hF, hcurrent⟩)

/-- An idle entry is marked, and its host asked. -/
theorem Aging.probe (h : Aging hz F table history) {e : Nd6Entry}
    (hlook : table.hash.lookup ipv6 = some e)
    (hidle : table.Idle hz now e) {sent : Bool}
    (hsent : F → table.Current e → sent = true) :
    Aging hz F { table with probed := Function.update table.probed e.position true }
      (history ++ [(now, .act (.probed ipv6 sent))]) := by
  refine ⟨h.slot, h.inj, ?_, h.aged.append ?_⟩
  · intro ip' e' hlook'
    obtain ⟨since, hlast, hmark⟩ := h.ages ip' e' hlook'
    refine ⟨since ++ [(now, .act (.probed ipv6 sent))], hlast.append ?_, ?_⟩
    · intro t hmem
      exact absurd (List.mem_singleton.mp hmem) (by simp)
    · intro hprobed
      by_cases hip : ip' = ipv6
      · subst hip
        obtain rfl := Option.some.inj (hlook.symm.trans hlook')
        refine ⟨since, now, sent, [], rfl, hidle, ?_⟩
        intro hF
        exact ⟨hsent hF.1 hF.2, fun t => List.not_mem_nil⟩
      · have hpos : e'.position ≠ e.position := fun hpos => hip (h.inj _ _ e' e hlook' hlook hpos)
        have hprobed' : table.probed e'.position = true := by
          rw [← Function.update_of_ne hpos true table.probed]
          exact hprobed
        refine (hmark hprobed').append ?_
        intro _ t hmem
        exact absurd (List.mem_singleton.mp hmem) (by simp)
  · intro t ip' hmem
    exact absurd (List.mem_singleton.mp hmem) (by simp)

/-- The generation is raised.  An entry that is current again is not marked. -/
theorem Aging.reset (h : Aging hz F table history)
    (hmark : F → ∀ ipv6 e, table.hash.lookup ipv6 = some e →
      (nd6TableReset table).Current e → table.probed e.position = false) :
    Aging hz F (nd6TableReset table) history := by
  refine ⟨h.slot, h.inj, ?_, h.aged⟩
  intro ipv6 e hlook
  obtain ⟨since, hlast, hasked⟩ := h.ages ipv6 e hlook
  refine ⟨since, hlast, ?_⟩
  intro hprobed
  refine (hasked hprobed).mono ?_
  intro ⟨hF, hcurrent⟩
  exact absurd (hprobed.symm.trans (hmark hF ipv6 e hlook hcurrent)) (by decide)

/-! ### A sweep -/

/-- The events of a list of acts. -/
def actsAt (now : Nat) (acts : List Nd6Act) : Nd6History := acts.map fun a => (now, .act a)

theorem actsAt_nil (now : Nat) : actsAt now [] = [] := rfl

theorem actsAt_append (now : Nat) (acts acts' : List Nd6Act) :
    actsAt now (acts ++ acts') = actsAt now acts ++ actsAt now acts' :=
  List.map_append

/-- A sweep.  Whoever is marked is asked. -/
theorem Aging.ageScan (h : Aging hz F table history) (gateReady : Bool) (tx : BitVec 128 → Bool)
    (hsent : F → ∀ ipv6 e, table.hash.lookup ipv6 = some e → table.Current e →
      table.Idle hz now e → table.probed e.position = false → (gateReady && tx ipv6) = true) :
    Aging hz F (nd6AgeScanTable hz now gateReady tx table).1
      (history ++ actsAt now (nd6AgeScanTable hz now gateReady tx table).2) := by
  refine (nd6AgeScanTable_inv hz now gateReady tx table
    (fun table' acts => Aging hz F table' (history ++ actsAt now acts)) ?_ ?_).1
  · rw [actsAt_nil, List.append_nil]
    exact h
  · intro table₁ acts ipv6 table₂ done hI hswept hvisit
    rw [actsAt_append, ← List.append_assoc]
    cases hvisit with
    | same =>
        rw [actsAt_nil, List.append_nil]
        exact hI
    | swept =>
        refine (hI.erase ipv6).append ?_ ?_ ?_
        · intro t ip' hmem
          exact absurd (List.mem_singleton.mp hmem) (by simp)
        · intro t ip' hmem
          exact absurd (List.mem_singleton.mp hmem) (by simp)
        · intro _ ip' e _ _ _ t hmem
          exact absurd (List.mem_singleton.mp hmem) (by simp)
    | aged hlook hcurrent hidle hprobed => exact hI.delete hlook hcurrent hidle hprobed
    | @probed e hlook hcurrent hidle hprobed =>
        refine hI.probe hlook hidle ?_
        intro hF _
        -- what is to be marked now was to be marked when the sweep began
        refine hsent hF ipv6 e (hswept.hash ipv6 e hlook) ?_ ?_ ?_
        · exact hcurrent.trans hswept.generation
        · unfold Nd6Table.Idle at hidle ⊢
          rw [← hswept.lastSeen]
          exact hidle
        · by_contra hnot
          rw [hswept.probed _ (Bool.not_eq_false _ ▸ hnot)] at hprobed
          exact absurd hprobed (by decide)

/-! ### A lesson -/

/-- An address is in the table, at a position where no other is, and has been seen just now. -/
structure Learned (table : Nd6Table) (ipv6 : BitVec 128) (now p : Nat) (table' : Nd6Table) :
    Prop where
  slotCount : table'.slotCount = table.slotCount
  generation : table'.generation = table.generation
  lastSeen : table'.lastSeen = Function.update table.lastSeen p now
  probed : table'.probed = Function.update table.probed p false
  there : ∃ data, table'.hash.lookup ipv6 = some ⟨p, data⟩
  others : ∀ ip', ip' ≠ ipv6 → table'.hash.lookup ip' = table.hash.lookup ip'
  slot : p < table.slotCount
  mine : ∀ ip' e, table.hash.lookup ip' = some e → e.position = p → ip' = ipv6

theorem nd6TableTouch_of_lt {p : Nat} (hp : p < table.slotCount) :
    nd6TableTouch table now (some p) = { table with
      lastSeen := Function.update table.lastSeen p now
      probed := Function.update table.probed p false } := by
  unfold nd6TableTouch
  simp only
  rw [if_neg (Nat.not_le_of_lt hp)]

/-- A key is added at a position that is its own. -/
theorem nd6AddKeyData_learned {data : BitVec 64} {room : Option Nat}
    (hslot : ∀ ip' e, table.hash.lookup ip' = some e → e.position < table.slotCount)
    (hinj : ∀ ip₁ ip₂ e e', table.hash.lookup ip₁ = some e → table.hash.lookup ip₂ = some e' →
      e.position = e'.position → ip₁ = ip₂)
    (h : nd6AddKeyData table ipv6 data room = some table') :
    ∃ p, Learned table ipv6 now p (nd6TableTouch table' now (table'.positionOf ipv6)) := by
  -- the key with its word, at a position that no other key has
  have hadd : ∀ p, p < table.slotCount →
      (∀ ip' e, table.hash.lookup ip' = some e → e.position = p → ip' = ipv6) →
      table' = { table with hash := table.hash.insert ipv6 ⟨p, data⟩ } →
      Learned table ipv6 now p (nd6TableTouch table' now (table'.positionOf ipv6)) := by
    intro p hp hmine htable
    have hpos : table'.positionOf ipv6 = some p := by
      rw [htable, Nd6Table.positionOf, AList.lookup_insert]
      rfl
    have hp' : p < table'.slotCount := by
      rw [htable]
      exact hp
    rw [hpos, nd6TableTouch_of_lt hp', htable]
    exact ⟨rfl, rfl, rfl, rfl, ⟨data, AList.lookup_insert _⟩,
      fun ip' hip => AList.lookup_insert_ne hip, hp, hmine⟩
  unfold nd6AddKeyData at h
  cases hlook : table.hash.lookup ipv6 with
  | some e =>
      simp only [hlook] at h
      exact ⟨e.position, hadd e.position (hslot ipv6 e hlook)
        (fun ip' e' he' hpos => hinj ip' ipv6 e' e he' hlook hpos) (Option.some.inj h).symm⟩
  | none =>
      simp only [hlook] at h
      cases room with
      | none => exact absurd h (by simp)
      | some p =>
          by_cases hvacant : table.vacant p = true
          · simp only [if_pos hvacant] at h
            obtain ⟨hp, hfree⟩ := Bool.and_eq_true_iff.mp hvacant
            refine ⟨p, hadd p (of_decide_eq_true hp) ?_ (Option.some.inj h).symm⟩
            intro ip' e he hpos
            have hne := List.all_eq_true.mp hfree ⟨ip', e⟩ (AList.mem_lookup_iff.mp he)
            exact absurd hpos (of_decide_eq_true hne)
          · simp only [if_neg hvacant] at h
            exact absurd h (by simp)

/-- Learning fails only for an address that is not there. -/
theorem nd6TableLearn_cases (ipv6 : BitVec 128) (mac : BitVec 48) (now : Nat)
    (room room' : Option Nat)
    (hslot : ∀ ip' e, table.hash.lookup ip' = some e → e.position < table.slotCount)
    (hinj : ∀ ip₁ ip₂ e e', table.hash.lookup ip₁ = some e → table.hash.lookup ip₂ = some e' →
      e.position = e'.position → ip₁ = ip₂) :
    (nd6TableLearn table ipv6 mac now room room' = (false, table) ∧
        table.hash.lookup ipv6 = none) ∨
      ∃ table' p, nd6TableLearn table ipv6 mac now room room' = (true, table') ∧
        Learned table ipv6 now p table' := by
  unfold nd6TableLearn
  simp only
  by_cases hsame : (table.hash.lookup ipv6).map Nd6Entry.data =
      some (macTablePack mac table.generation)
  · rw [if_pos hsame]
    obtain ⟨e, he, -⟩ := Option.map_eq_some_iff.mp hsame
    have hpos : table.positionOf ipv6 = some e.position := by
      rw [Nd6Table.positionOf, he]
      rfl
    refine Or.inr ⟨_, e.position, rfl, ?_⟩
    rw [hpos, nd6TableTouch_of_lt (hslot ipv6 e he)]
    exact ⟨rfl, rfl, rfl, rfl, ⟨e.data, he⟩, fun _ _ => rfl, hslot ipv6 e he,
      fun ip' e' he' hpos' => hinj ip' ipv6 e' e he' he hpos'⟩
  · rw [if_neg hsame]
    cases hadd : nd6AddKeyData table ipv6 (macTablePack mac table.generation) room with
    | some table' =>
        obtain ⟨p, hlearned⟩ := nd6AddKeyData_learned hslot hinj hadd
        exact Or.inr ⟨_, p, rfl, hlearned⟩
    | none =>
        cases hadd' : nd6AddKeyData table ipv6 (macTablePack mac table.generation) room' with
        | some table' =>
            obtain ⟨p, hlearned⟩ := nd6AddKeyData_learned hslot hinj hadd'
            exact Or.inr ⟨_, p, rfl, hlearned⟩
        | none =>
            refine Or.inl ⟨rfl, ?_⟩
            by_contra hlook
            obtain ⟨e, he⟩ := Option.ne_none_iff_exists'.mp hlook
            unfold nd6AddKeyData at hadd
            simp only [he] at hadd
            exact absurd hadd (by simp)

/-- A message of an address is heard and its MAC is learned. -/
theorem Aging.learn (h : Aging hz F table history) {p : Nat}
    (hl : Learned table ipv6 now p table') (hev : ∀ q ∈ ev, ∃ t, q = (t, .heard ipv6)) :
    Aging hz F table' (history ++ (ev ++ [(now, .act (.learned ipv6))])) := by
  obtain ⟨data, hthere⟩ := hl.there
  have hmine : ∀ e, table'.hash.lookup ipv6 = some e → e.position = p := by
    intro e hlook
    rw [← Option.some.inj (hthere.symm.trans hlook)]
  have hother : ∀ ip' e, ip' ≠ ipv6 → table'.hash.lookup ip' = some e →
      table.hash.lookup ip' = some e ∧ e.position ≠ p := by
    intro ip' e hip hlook
    rw [hl.others ip' hip] at hlook
    exact ⟨hlook, fun hpos => hip (hl.mine ip' e hlook hpos)⟩
  have hquiet : ∀ {x : Nat × Nd6Event}, (∀ t, x ≠ (t, .heard ipv6)) →
      x ≠ (now, .act (.learned ipv6)) → x ∉ ev ++ [(now, .act (.learned ipv6))] := by
    intro x hheard hlearned hmem
    rcases List.mem_append.mp hmem with hmem | hmem
    · obtain ⟨t, ht⟩ := hev x hmem
      exact hheard t ht
    · exact hlearned (List.mem_singleton.mp hmem)
  refine ⟨?_, ?_, ?_, h.aged.append ?_⟩
  · intro ip' e hlook
    rw [hl.slotCount]
    by_cases hip : ip' = ipv6
    · subst hip
      rw [hmine e hlook]
      exact hl.slot
    · exact h.slot ip' e (hother ip' e hip hlook).1
  · intro ip₁ ip₂ e e' hlook hlook' hpos
    by_cases hip₁ : ip₁ = ipv6
    · by_cases hip₂ : ip₂ = ipv6
      · exact hip₁.trans hip₂.symm
      · rw [hip₁] at hlook
        exact absurd (hpos.symm.trans (hmine e hlook)) (hother ip₂ e' hip₂ hlook').2
    · by_cases hip₂ : ip₂ = ipv6
      · rw [hip₂] at hlook'
        exact absurd (hpos.trans (hmine e' hlook')) (hother ip₁ e hip₁ hlook).2
      · exact h.inj ip₁ ip₂ e e' (hother ip₁ e hip₁ hlook).1 (hother ip₂ e' hip₂ hlook').1 hpos
  · intro ip' e hlook
    rw [hl.lastSeen, hl.probed]
    by_cases hip : ip' = ipv6
    · subst hip
      rw [hmine e hlook, Function.update_self, Function.update_self]
      refine ⟨[], ⟨⟨history ++ ev, ?_⟩, fun t => List.not_mem_nil⟩, fun hprobed => ?_⟩
      · rw [List.append_assoc]
      · exact absurd hprobed (by decide)
    · obtain ⟨hlook', hpos⟩ := hother ip' e hip hlook
      obtain ⟨since, hlast, hmark⟩ := h.ages ip' e hlook'
      rw [Function.update_of_ne hpos, Function.update_of_ne hpos]
      refine ⟨_, hlast.append fun t => hquiet (by simp) (by simp [hip]), ?_⟩
      intro hprobed
      refine ((hmark hprobed).mono fun hF => ⟨hF.1, ?_⟩).append ?_
      · exact hF.2.trans hl.generation
      · intro _ t
        exact hquiet (by simp [hip]) (by simp)
  · intro t ip'
    exact hquiet (by simp) (by simp)

/-! ### A message -/

/-- The MAC in a solicitation or an advertisement whose options are in order. -/
def nd6NeighborMac (pkt : List (BitVec 8)) : Option (Option (BitVec 48)) :=
  if pkt.getD nd6IcmpOff 0 = nd6IcmpNs then nd6NeighborOptions pkt nd6OptSlla
  else if pkt.getD nd6IcmpOff 0 = nd6IcmpNa then nd6NeighborOptions pkt nd6OptTlla
  else none

/-- The address a valid solicitation or advertisement is from. -/
def nd6Heard (cksumOk : List (BitVec 8) → Bool) (pkt : List (BitVec 8)) : Option (BitVec 128) :=
  if nd6FrameOk cksumOk pkt = true ∧ (nd6NeighborMac pkt).isSome ∧ ipv6At pkt nd6SrcIpOff ≠ 0 then
    some (ipv6At pkt nd6SrcIpOff)
  else none

/-- The MAC a message teaches: the gate is open, its source is on the link, and it has the option. -/
def Nd6Ccb.lesson (cksumOk : List (BitVec 8) → Bool) (c : Nd6Ccb) (pkt : List (BitVec 8)) :
    Option (BitVec 48) :=
  if c.gateReady = true ∧ (nd6Heard cksumOk pkt).isSome ∧
      nd6SrcIsOnLink c.hsiIpv6LanPrefix (ipv6At pkt nd6SrcIpOff) = true then
    (nd6NeighborMac pkt).join
  else none

/-- Acts that are no lesson and no deletion. -/
def Plain (acts : List Nd6Act) : Prop :=
  ∀ a ∈ acts, ∀ ipv6, a ≠ .learned ipv6 ∧ a ≠ .aged ipv6

/-- What a message comes to: nothing for the table, or its lesson. -/
inductive LanInput (c : Nd6Ccb) (heard : Option (BitVec 128)) (lesson : Option (BitVec 48))
    (now : Nat) (room room' : Option Nat) : Nd6Ccb × List Nd6Act → Prop
  | quiet {c' : Nd6Ccb} {acts : List Nd6Act} (hlesson : lesson = none)
      (htable : c'.nd6Table = c.nd6Table) (hplain : Plain acts) :
      LanInput c heard lesson now room room' (c', acts)
  | taught {c' : Nd6Ccb} {ipv6 : BitVec 128} {mac : BitVec 48} {tail : List Nd6Act}
      (hheard : heard = some ipv6)
      (htable : c'.nd6Table = (nd6TableLearn c.nd6Table ipv6 mac now room room').2)
      (hplain : Plain tail) :
      LanInput c heard lesson now room room' (c',
        (if (nd6TableLearn c.nd6Table ipv6 mac now room room').1 then [.learned ipv6] else []) ++
          tail)

theorem plain_nil : Plain [] := by
  intro a ha
  exact absurd ha List.not_mem_nil

theorem plain_sentNa (dst : BitVec 128) (mac : BitVec 48) (flags : BitVec 32) :
    Plain [.sentNa dst mac flags] := by
  intro a ha ipv6
  rw [List.mem_singleton.mp ha]
  exact ⟨by simp, by simp⟩

/-- The lesson of a message, when it has one, and then what else is done. -/
theorem lanInput_learn (c : Nd6Ccb) (now : Nat) (room room' : Option Nat) {ipv6 : BitVec 128}
    {mac : Option (BitVec 48)} {heard : Option (BitVec 128)} {lesson : Option (BitVec 48)}
    (hheard : heard = some ipv6) (hlesson : mac = none → lesson = none) {tail : List Nd6Act}
    (hplain : Plain tail) :
    LanInput c heard lesson now room room'
      ((c.learn ipv6 mac now room room').1, (c.learn ipv6 mac now room room').2 ++ tail) := by
  cases mac with
  | none => exact .quiet (hlesson rfl) rfl hplain
  | some mac => exact .taught hheard rfl hplain

theorem nd6LanInput_cases (cksumOk : List (BitVec 8) → Bool) (hz now : Nat)
    (room room' : Option Nat) (c : Nd6Ccb) (pkt : List (BitVec 8)) :
    LanInput c (nd6Heard cksumOk pkt) (c.lesson cksumOk pkt) now room room'
      (nd6LanInput cksumOk hz now room room' c pkt) := by
  -- a message that is not heard, or is not from the link, has no lesson
  have hunheard : nd6Heard cksumOk pkt = none → c.lesson cksumOk pkt = none := by
    intro h
    exact if_neg fun hand => by simp [h] at hand
  have hstrange : nd6SrcIsOnLink c.hsiIpv6LanPrefix (ipv6At pkt nd6SrcIpOff) = false →
      c.lesson cksumOk pkt = none := by
    intro h
    exact if_neg fun hand => by simp [h] at hand
  have hnone : nd6NeighborMac pkt = none → c.lesson cksumOk pkt = none :=
    fun h => hunheard (if_neg fun hand => by simp [h] at hand)
  have hzero : ipv6At pkt nd6SrcIpOff = 0 → c.lesson cksumOk pkt = none :=
    fun h => hunheard (if_neg fun hand => hand.2.2 h)
  unfold nd6LanInput
  simp only
  by_cases hgate : (!c.gateReady || !nd6FrameOk cksumOk pkt) = true
  · rw [if_pos hgate]
    refine .quiet ?_ rfl plain_nil
    rcases Bool.or_eq_true_iff.mp hgate with hclosed | hbad
    · exact if_neg fun hand => by simp [hand.1] at hclosed
    · exact hunheard (if_neg fun hand => by simp [hand.1] at hbad)
  rw [if_neg hgate]
  have hframe : nd6FrameOk cksumOk pkt = true := by
    cases hf : nd6FrameOk cksumOk pkt with
    | true => rfl
    | false => exact absurd (by simp [hf]) hgate
  have hheard : (nd6NeighborMac pkt).isSome = true → ipv6At pkt nd6SrcIpOff ≠ 0 →
      nd6Heard cksumOk pkt = some (ipv6At pkt nd6SrcIpOff) :=
    fun hmac hsrc => if_pos ⟨hframe, hmac, hsrc⟩
  have hjoin : nd6NeighborMac pkt = some none → c.lesson cksumOk pkt = none := by
    intro h
    unfold Nd6Ccb.lesson
    rw [h]
    exact ite_self none
  by_cases hrs : pkt.getD nd6IcmpOff 0 = nd6IcmpRs
  · rw [if_pos hrs]
    have hmac : nd6NeighborMac pkt = none := by
      unfold nd6NeighborMac
      rw [hrs, if_neg (by decide), if_neg (by decide)]
    by_cases hopts : nd6ParseLlOptions (pkt.drop (nd6IcmpOff + nd6IcmpHeaderLen)) nd6OptSlla = none
    · rw [if_pos hopts]
      exact .quiet (hnone hmac) rfl plain_nil
    rw [if_neg hopts]
    by_cases hsoon : now - c.lastRsRaCycles < 3 * hz
    · rw [if_pos hsoon]
      exact .quiet (hnone hmac) rfl plain_nil
    · rw [if_neg hsoon]
      refine .quiet (hnone hmac) rfl ?_
      intro a ha ipv6
      rw [List.mem_singleton.mp ha]
      exact ⟨by simp, by simp⟩
  rw [if_neg hrs]
  by_cases hns : pkt.getD nd6IcmpOff 0 = nd6IcmpNs
  · rw [if_pos hns]
    have hmac : nd6NeighborMac pkt = nd6NeighborOptions pkt nd6OptSlla := if_pos hns
    cases hopts : nd6NeighborOptions pkt nd6OptSlla with
    | none => exact .quiet (hnone (hmac.trans hopts)) rfl plain_nil
    | some slla =>
        rw [hopts] at hmac
        simp only
        by_cases hsrc : ipv6At pkt nd6SrcIpOff = 0
        · rw [if_pos hsrc]
          by_cases htarget : ipv6At pkt nd6TargetOff = nd6GatewayLinkLocal c.hsiLanMac
          · rw [if_pos htarget]
            exact .quiet (hzero hsrc) rfl (plain_sentNa _ _ _)
          · rw [if_neg htarget]
            exact .quiet (hzero hsrc) rfl plain_nil
        rw [if_neg hsrc]
        by_cases hlink : (!nd6SrcIsOnLink c.hsiIpv6LanPrefix (ipv6At pkt nd6SrcIpOff)) = true
        · rw [if_pos hlink]
          exact .quiet (hstrange (Bool.not_eq_true' _ ▸ hlink)) rfl plain_nil
        rw [if_neg hlink]
        have hheard := hheard (by rw [hmac]; rfl) hsrc
        have hlesson : slla = none → c.lesson cksumOk pkt = none :=
          fun h => hjoin (h ▸ hmac)
        by_cases htarget : ipv6At pkt nd6TargetOff = nd6GatewayLinkLocal c.hsiLanMac
        · rw [if_pos htarget]
          exact lanInput_learn c now room room' hheard hlesson (plain_sentNa _ _ _)
        · rw [if_neg htarget]
          have h := lanInput_learn c now room room' hheard hlesson plain_nil
          rw [List.append_nil] at h
          exact h
  rw [if_neg hns]
  by_cases hna : pkt.getD nd6IcmpOff 0 = nd6IcmpNa
  · rw [if_pos hna]
    have hmac : nd6NeighborMac pkt = nd6NeighborOptions pkt nd6OptTlla := by
      unfold nd6NeighborMac
      rw [if_neg hns, if_pos hna]
    cases hopts : nd6NeighborOptions pkt nd6OptTlla with
    | none => exact .quiet (hnone (hmac.trans hopts)) rfl plain_nil
    | some tlla =>
        rw [hopts] at hmac
        simp only
        by_cases hsrc : ipv6At pkt nd6SrcIpOff = 0 ∨
            nd6SrcIsOnLink c.hsiIpv6LanPrefix (ipv6At pkt nd6SrcIpOff) = false
        · rw [if_pos hsrc]
          exact .quiet (hsrc.elim hzero hstrange) rfl plain_nil
        · rw [if_neg hsrc]
          have hheard := hheard (by rw [hmac]; rfl) fun h => hsrc (Or.inl h)
          have h := lanInput_learn c now room room' hheard
            (fun h => hjoin (h ▸ hmac)) plain_nil
          rw [List.append_nil] at h
          exact h
  · rw [if_neg hna]
    refine .quiet (hnone ?_) rfl plain_nil
    unfold nd6NeighborMac
    rw [if_neg hns, if_neg hna]

/-! ### Runs -/

/-- A subscriber's block, and what has happened. -/
structure Nd6Run where
  ccb : Nd6Ccb
  history : Nd6History

inductive Nd6Op
  /-- A frame comes in from the LAN. -/
  | input (pkt : List (BitVec 8)) (now : Nat) (room room' : Option Nat)
  /-- The table is swept; `tx` is whether the card takes the solicitation for an address. -/
  | ageScan (now : Nat) (tx : BitVec 128 → Bool)
  | reset
  /-- The gate opens or closes, and the prefix of the LAN may change. -/
  | gate (ipv6Enabled ipv6cpUp dhcp6PdReady : Bool) (hsiIpv6LanPrefix : BitVec 64)

def Nd6Run.step (cksumOk : List (BitVec 8) → Bool) (hz : Nat) (r : Nd6Run) : Nd6Op → Nd6Run
  | .input pkt now room room' =>
      let (ccb, acts) := nd6LanInput cksumOk hz now room room' r.ccb pkt
      { ccb
        history := r.history ++
          ((nd6Heard cksumOk pkt).toList.map (fun ipv6 => (now, .heard ipv6)) ++ actsAt now acts) }
  | .ageScan now tx =>
      let (table, acts) := nd6AgeScanTable hz now r.ccb.gateReady tx r.ccb.nd6Table
      { ccb := { r.ccb with nd6Table := table }
        history := r.history ++ actsAt now acts }
  | .reset => { r with ccb := { r.ccb with nd6Table := nd6TableReset r.ccb.nd6Table } }
  | .gate ipv6Enabled ipv6cpUp dhcp6PdReady hsiIpv6LanPrefix =>
      { r with ccb :=
          { r.ccb with ipv6Enabled, ipv6cpUp, dhcp6PdReady, hsiIpv6LanPrefix } }

/-- Where a step may go wrong, it does not: what is heard of a host whose entry is marked is a
lesson; whoever is to be marked is really asked; a reset brings no marked entry back. -/
def Nd6Run.Fair (cksumOk : List (BitVec 8) → Bool) (hz : Nat) (r : Nd6Run) : Nd6Op → Prop
  | .input pkt _ _ _ => ∀ ipv6 e, nd6Heard cksumOk pkt = some ipv6 →
      r.ccb.nd6Table.hash.lookup ipv6 = some e → r.ccb.nd6Table.Current e →
      r.ccb.nd6Table.probed e.position = true → (r.ccb.lesson cksumOk pkt).isSome = true
  | .ageScan now tx => ∀ ipv6 e, r.ccb.nd6Table.hash.lookup ipv6 = some e →
      r.ccb.nd6Table.Current e → r.ccb.nd6Table.Idle hz now e →
      r.ccb.nd6Table.probed e.position = false → (r.ccb.gateReady && tx ipv6) = true
  | .reset => ∀ ipv6 e, r.ccb.nd6Table.hash.lookup ipv6 = some e →
      (nd6TableReset r.ccb.nd6Table).Current e → r.ccb.nd6Table.probed e.position = false
  | .gate _ _ _ _ => True

theorem not_mem_actsAt {acts : List Nd6Act} {a : Nd6Act} (h : a ∉ acts) (t : Nat) :
    (t, Nd6Event.act a) ∉ actsAt now acts := by
  intro hmem
  obtain ⟨b, hb, heq⟩ := List.mem_map.mp hmem
  obtain rfl := Nd6Event.act.inj (Prod.mk.inj heq).2
  exact h hb

theorem heard_not_mem_actsAt (acts : List Nd6Act) (ipv6 : BitVec 128) (t : Nat) :
    (t, Nd6Event.heard ipv6) ∉ actsAt now acts := by
  intro hmem
  obtain ⟨b, -, heq⟩ := List.mem_map.mp hmem
  exact absurd (Prod.mk.inj heq).2 (by simp)

/-- Plain acts tell the table nothing. -/
theorem Aging.plain (h : Aging hz F table history) {acts : List Nd6Act} (hplain : Plain acts) :
    Aging hz F table (history ++ actsAt now acts) := by
  refine h.append ?_ ?_ ?_
  · intro t ipv6
    exact not_mem_actsAt (fun hmem => (hplain _ hmem ipv6).1 rfl) t
  · intro t ipv6
    exact not_mem_actsAt (fun hmem => (hplain _ hmem ipv6).2 rfl) t
  · intro _ ipv6 _ _ _ _ t
    exact heard_not_mem_actsAt acts ipv6 t

/-- Something is heard, of a host that is not marked. -/
theorem Aging.heard (h : Aging hz F table history) (heard : Option (BitVec 128))
    (hmark : F → ∀ ipv6 e, heard = some ipv6 → table.hash.lookup ipv6 = some e →
      table.Current e → table.probed e.position = true → False) :
    Aging hz F table (history ++ heard.toList.map fun ipv6 => (now, .heard ipv6)) := by
  have hmem : ∀ {q : Nat × Nd6Event},
      q ∈ heard.toList.map (fun ipv6 => (now, Nd6Event.heard ipv6)) →
        ∃ ipv6, heard = some ipv6 ∧ q = (now, .heard ipv6) := by
    intro q hq
    obtain ⟨ipv6, hip, rfl⟩ := List.mem_map.mp hq
    exact ⟨ipv6, Option.mem_toList.mp hip, rfl⟩
  refine h.append ?_ ?_ ?_
  · intro t ipv6 hq
    obtain ⟨_, _, heq⟩ := hmem hq
    exact absurd (Prod.mk.inj heq).2 (by simp)
  · intro t ipv6 hq
    obtain ⟨_, _, heq⟩ := hmem hq
    exact absurd (Prod.mk.inj heq).2 (by simp)
  · intro hF ipv6 e hlook hcurrent hprobed t hq
    obtain ⟨ip', hip, heq⟩ := hmem hq
    obtain rfl := Nd6Event.heard.inj (Prod.mk.inj heq).2
    exact hmark hF ipv6 e hip hlook hcurrent hprobed

/-- A frame from the LAN. -/
theorem Aging.input {cksumOk : List (BitVec 8) → Bool} {c : Nd6Ccb}
    (h : Aging hz F c.nd6Table history) (pkt : List (BitVec 8)) (room room' : Option Nat)
    (hfair : F → ∀ ipv6 e, nd6Heard cksumOk pkt = some ipv6 →
      c.nd6Table.hash.lookup ipv6 = some e → c.nd6Table.Current e →
      c.nd6Table.probed e.position = true → (c.lesson cksumOk pkt).isSome = true) :
    Aging hz F (nd6LanInput cksumOk hz now room room' c pkt).1.nd6Table
      (history ++ ((nd6Heard cksumOk pkt).toList.map (fun ipv6 => (now, .heard ipv6)) ++
        actsAt now (nd6LanInput cksumOk hz now room room' c pkt).2)) := by
  have hinput := nd6LanInput_cases cksumOk hz now room room' c pkt
  generalize nd6LanInput cksumOk hz now room room' c pkt = r at hinput
  cases hinput with
  | quiet hlesson htable hplain =>
      rw [htable, ← List.append_assoc]
      refine (h.heard _ ?_).plain hplain
      intro hF ipv6 e hheard hlook hcurrent hprobed
      have hsome := hfair hF ipv6 e hheard hlook hcurrent hprobed
      rw [hlesson] at hsome
      exact absurd hsome (by decide)
  | @taught c' ipv6 mac tail hheard htable hplain =>
      rw [htable, hheard, actsAt_append, ← List.append_assoc, ← List.append_assoc]
      rcases nd6TableLearn_cases ipv6 mac now room room' h.slot h.inj with
        ⟨hlearn, hlook⟩ | ⟨table', p, hlearn, hl⟩
      · rw [hlearn, if_neg Bool.false_ne_true, actsAt_nil, List.append_nil]
        refine (h.heard (some ipv6) ?_).plain hplain
        intro _ ip' e hip hlook' _ _
        rw [← Option.some.inj hip, hlook] at hlook'
        exact absurd hlook' (by simp)
      · rw [hlearn, if_pos rfl, List.append_assoc history]
        refine (h.learn hl ?_).plain hplain
        intro q hq
        exact ⟨now, List.mem_singleton.mp hq⟩

theorem Nd6Run.aging_step (cksumOk : List (BitVec 8) → Bool) (hz : Nat) (F : Prop) (r : Nd6Run)
    (op : Nd6Op) (h : Aging hz F r.ccb.nd6Table r.history) (hop : F → r.Fair cksumOk hz op) :
    Aging hz F (r.step cksumOk hz op).ccb.nd6Table (r.step cksumOk hz op).history := by
  cases op with
  | input pkt now room room' => exact h.input pkt room room' fun hF => hop hF
  | ageScan now tx => exact h.ageScan r.ccb.gateReady tx fun hF => hop hF
  | reset => exact h.reset fun hF => hop hF
  | gate => exact h

/-- A subscriber with a new table, before anything has happened. -/
def Nd6Run.start (hsiLanMac : BitVec 48) (slotCount : Nat) : Nd6Run :=
  ⟨⟨false, false, false, 0, hsiLanMac, 0, .alloc slotCount⟩, []⟩

theorem aging_start (hz : Nat) (F : Prop) (hsiLanMac : BitVec 48) (slotCount : Nat) :
    Aging hz F (Nd6Run.start hsiLanMac slotCount).ccb.nd6Table
      (Nd6Run.start hsiLanMac slotCount).history := by
  have hempty : ∀ (ipv6 : BitVec 128) (e : Nd6Entry),
      (Nd6Run.start hsiLanMac slotCount).ccb.nd6Table.hash.lookup ipv6 ≠ some e := by
    intro ipv6 e
    exact Option.some_ne_none e |>.symm
  refine ⟨?_, ?_, ?_, ?_⟩
  · intro ipv6 e hlook
    exact absurd hlook (hempty ipv6 e)
  · intro ipv6 ip' e e' hlook
    exact absurd hlook (hempty ipv6 e)
  · intro ipv6 e hlook
    exact absurd hlook (hempty ipv6 e)
  · intro pre post t ipv6 hsplit
    exact absurd hsplit (by simp [Nd6Run.start])

/--
**Neighbours age fairly.**

In every run an entry is deleted for its age only after it has been idle for longer than
`ND6_NEIGHBOR_TTL_SEC` and has been marked for it, and every position keeps the age and the mark of
the address that has it now.  In every run that is fair at each step, the solicitation of a deleted
entry had really gone out by then, and nothing valid was heard of its host after it.
-/
theorem nd6_ages_fairly (cksumOk : List (BitVec 8) → Bool) (hz : Nat) (hsiLanMac : BitVec 48)
    (slotCount : Nat) {ops ops' : List Nd6Op} {r r' : Nd6Run}
    (hrun : Run (Nd6Run.step cksumOk hz) (fun _ _ => True) (.start hsiLanMac slotCount) ops r)
    (hfair : Run (Nd6Run.step cksumOk hz) (Nd6Run.Fair cksumOk hz) (.start hsiLanMac slotCount)
      ops' r') :
    r.ccb.nd6Table.OwnAges hz False r.history ∧ AgedAsked hz False r.history ∧
      AgedAsked hz True r'.history := by
  have hrun' := hrun.inv (fun r => Aging hz False r.ccb.nd6Table r.history)
    (fun s op h _ => s.aging_step cksumOk hz False op h False.elim)
    (aging_start hz False hsiLanMac slotCount)
  have hfair' := hfair.inv (fun r => Aging hz True r.ccb.nd6Table r.history)
    (fun s op h hop => s.aging_step cksumOk hz True op h fun _ => hop)
    (aging_start hz True hsiLanMac slotCount)
  exact ⟨hrun'.ages, hrun'.aged, hfair'.aged⟩

/-! ### An advertisement -/

/-- An advertisement of `fe80::2` with its MAC, as a frame. -/
def advertisement : List (BitVec 8) :=
  [ 0x33, 0x33, 0, 0, 0, 1, 2, 0, 0, 0, 0, 2, 0x81, 0, 0, 1, 0x86, 0xdd, 0x60, 0, 0, 0, 0, 0x20,
    0x3a, 0xff, 0xfe, 0x80, 0, 0, 0, 0, 0, 0, 0, 0, 0, 0, 0, 0, 0, 2, 0xff, 2, 0, 0, 0, 0, 0, 0,
    0, 0, 0, 0, 0, 0, 0, 1, 0x88, 0, 0x57, 0x98, 0x20, 0, 0, 0, 0xfe, 0x80, 0, 0, 0, 0, 0, 0, 0,
    0, 0, 0, 0, 0, 0, 2, 2, 1, 2, 0, 0, 0, 0, 2 ]

/-- The frame is heard and its MAC learned; the entry is idle at 301 seconds and again a minute
later. -/
def agedRun (gateReady : Bool) : List Nd6Op :=
  [ .gate true true true 0, .input advertisement 0 (some 0) none,
    .gate true true gateReady 0, .ageScan 301 fun _ => true,
    .gate true true true 0, .ageScan 361 fun _ => true ]

/-- With the gate open the host is asked before its entry is deleted. -/
theorem nd6_ages_fairly_open :
    (361, .act (.aged 0xfe800000000000000000000000000002)) ∈
        ((agedRun true).foldl (Nd6Run.step (fun _ => true) 1) (.start 1 1)).history ∧
      AgedAsked 1 True
        ((agedRun true).foldl (Nd6Run.step (fun _ => true) 1) (.start 1 1)).history := by
  have hfair : Run (Nd6Run.step (fun _ => true) 1) (Nd6Run.Fair (fun _ => true) 1) (.start 1 1)
      (agedRun true) ((agedRun true).foldl (Nd6Run.step (fun _ => true) 1) (.start 1 1)) := by
    refine (((((Run.nil.snoc (Nd6Op.gate true true true 0) trivial).snoc
      (Nd6Op.input advertisement 0 (some 0) none) ?_).snoc
      (Nd6Op.gate true true true 0) trivial).snoc
      (Nd6Op.ageScan 301 fun _ => true) ?_).snoc
      (Nd6Op.gate true true true 0) trivial).snoc
      (Nd6Op.ageScan 361 fun _ => true) ?_
    · intro ipv6 e _ hlook
      exact absurd (show none = some e from hlook) (by simp)
    · intro _ _ _ _ _ _
      rfl
    · intro _ _ _ _ _ _
      rfl
  have h := nd6_ages_fairly (fun _ => true) 1 1 1 
    (Run.of_labels _ (agedRun true) fun _ _ _ => trivial) hfair
  exact ⟨by decide +kernel, h.2.2⟩

/-- With the gate closed at the first sweep the entry is marked all the same, and deleted though its
host was never asked. -/
theorem nd6_ages_unasked :
    ¬ AgedAsked 1 True
      ((agedRun false).foldl (Nd6Run.step (fun _ => true) 1) (.start 1 1)).history := by
  have hhistory : ((agedRun false).foldl (Nd6Run.step (fun _ => true) 1) (.start 1 1)).history =
      [ (0, .heard 0xfe800000000000000000000000000002),
        (0, .act (.learned 0xfe800000000000000000000000000002)),
        (301, .act (.probed 0xfe800000000000000000000000000002 false)) ] ++
      (361, .act (.aged 0xfe800000000000000000000000000002)) :: [] := by
    decide +kernel
  intro h
  obtain ⟨t₀, since, ⟨⟨before, hpre⟩, -⟩, -, between, t₁, sent, after, hsince, -, hsent⟩ :=
    h _ _ _ _ hhistory
  obtain rfl : sent = true := (hsent trivial).1
  have hmem : (t₁, Nd6Event.act (.probed 0xfe800000000000000000000000000002 true)) ∈
      before ++ (t₀, .act (.learned 0xfe800000000000000000000000000002)) :: since := by
    rw [hsince]
    simp
  rw [← hpre] at hmem
  simp at hmem

end FastRG
