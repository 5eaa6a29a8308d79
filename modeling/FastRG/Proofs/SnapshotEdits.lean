/-
Offline edits in the configuration snapshot.

An edit made by hand stays in the snapshot, dirty and as it was made, until the same key is
edited again or a report clears it whose copy was taken after the edit.  The clear of an older
copy finds a later edit number and does nothing; that is because a copy is never ahead of the
entry it was taken from (`CopiesBehind`).
-/
import FastRG.ConfigSnapshot
import FastRG.Lib.Run

namespace FastRG

/-- The operation edits or deletes the entry of a key. -/
def SnapshotOp.Edits (key : SnapshotKey) (s : ConfigSnapshot) : SnapshotOp → Prop
  | .offlineEdit k value summary now => k = key ∧ (s.offlineEdit k value summary now).1 = .success
  | .offlineDelete k _ _ => k = key ∧ s.initialized = true ∧ (s.get k).isSome = true
  | _ => False

/-- The operation clears the entry of a key with a copy that is not among the first `n`. -/
def SnapshotOp.ClearsSince (n : Nat) (key : SnapshotKey) (s : ConfigSnapshot) : SnapshotOp → Prop
  | .clearCopied i => n ≤ i ∧ ∃ item, s.copied[i]? = some item ∧ item.key = key
  | _ => False

/-- The entry is what the operation makes of it. -/
def SnapshotOp.Wrote (s : ConfigSnapshot) (e : SnapshotEntry) : SnapshotOp → Prop
  | .offlineEdit k value _ now => ∃ root, value.parse = some root ∧ e.live = true ∧
      e.value = .doc (stampMetadata (nextRv ((s.entries.lookup k).getD .zero)) now root)
  | .offlineDelete k _ _ => e.live = false ∧ some e.value = s.get k
  | _ => False

namespace ConfigSnapshot

variable {s s' : ConfigSnapshot} {key : SnapshotKey}

@[simp] theorem put_entries (s : ConfigSnapshot) (k : SnapshotKey) (e : SnapshotEntry) :
    (s.put k e).entries = s.entries.insert k e := rfl

theorem lookup_put (s : ConfigSnapshot) (k : SnapshotKey) (e : SnapshotEntry) (key : SnapshotKey) :
    (s.put k e).entries.lookup key = if key = k then some e else s.entries.lookup key := by
  rw [put_entries]
  by_cases h : key = k
  · rw [if_pos h, h, AList.lookup_insert]
  · rw [if_neg h, AList.lookup_insert_ne h]

/-! ### What one operation does to one entry -/

/-- The ways in which an operation may leave the entry of a key. -/
inductive EntryMove (s : ConfigSnapshot) (key : SnapshotKey) (l : SnapshotOp) : Prop
  /-- It is as it was. -/
  | kept (hl : ¬ l.Edits key s)
      (h : (s.step l).entries.lookup key = s.entries.lookup key)
  /-- It was edited, and has the next number. -/
  | edited (e : SnapshotEntry) (hl : l.Edits key s) (h : (s.step l).entries.lookup key = some e)
      (hdirty : e.dirty = true) (hwrote : l.Wrote s e)
      (hseq : e.editSeq = ((s.entries.lookup key).getD .zero).editSeq + 1)
  /-- It was clean, and follows etcd. -/
  | mirrored (e : SnapshotEntry) (hl : ∃ value, l = .watchUpdate key value)
      (h : (s.step l).entries.lookup key = some e)
      (hclean : ((s.entries.lookup key).getD .zero).dirty = false)
      (hseq : e.editSeq = ((s.entries.lookup key).getD .zero).editSeq)
  /-- A report cleared it with a copy of its own number. -/
  | cleared (n : Nat) (item : DirtyItem) (e e' : SnapshotEntry) (hl : l = .clearCopied n)
      (hitem : s.copied[n]? = some item) (hkey : item.key = key)
      (he : s.entries.lookup key = some e) (heq : e.editSeq = item.editSeq)
      (h : (s.step l).entries.lookup key = some e') (hseq : e'.editSeq = e.editSeq)

/-- An operation that changes nothing and edits nothing. -/
theorem kept_of_eq {l : SnapshotOp} (hl : ¬ l.Edits key s) (h : s.step l = s) :
    EntryMove s key l :=
  .kept hl (by rw [h])

/-- An entry written under another key leaves this one. -/
theorem kept_of_put {k : SnapshotKey} {e : SnapshotEntry} {l : SnapshotOp} (hl : ¬ l.Edits key s)
    (hk : key ≠ k) (h : s.step l = s.put k e) : EntryMove s key l :=
  .kept hl (by rw [h, lookup_put, if_neg hk])

theorem entryMove_offlineEdit (k : SnapshotKey) (value : JsonText) (summary : List (BitVec 8))
    (now : SnapshotTime) : EntryMove s key (.offlineEdit k value summary now) := by
  have hstep : s.step (.offlineEdit k value summary now) = (s.offlineEdit k value summary now).2 :=
    rfl
  have hedit : (SnapshotOp.offlineEdit k value summary now).Edits key s ↔
      k = key ∧ (s.offlineEdit k value summary now).1 = .success := Iff.rfl
  -- A refused edit answers with an error and leaves everything.
  have hrefused : s.offlineEdit k value summary now = (.error, s) →
      EntryMove s key (.offlineEdit k value summary now) := by
    intro h
    rw [h] at hstep hedit
    exact kept_of_eq (fun hl => by cases (hedit.mp hl).2) hstep
  cases hv : value.parse with
  | none => exact hrefused (by unfold offlineEdit; rw [hv])
  | some root =>
      by_cases ho : root.isObject = false
      · exact hrefused (by unfold offlineEdit; simp only [hv]; rw [if_pos ho])
      by_cases hi : s.initialized = false
      · exact hrefused (by unfold offlineEdit; simp only [hv]; rw [if_neg ho, if_pos hi])
      unfold offlineEdit at hstep hedit
      simp only [hv] at hstep hedit
      rw [if_neg ho, if_neg hi] at hstep hedit
      by_cases hk : key = k
      · refine .edited _ (hedit.mpr ⟨hk.symm, rfl⟩)
          (by rw [hstep, lookup_put, if_pos hk]) rfl ⟨root, hv, rfl, rfl⟩ ?_
        rw [hk]
      · exact kept_of_put (fun hl => hk (hedit.mp hl).1.symm) hk hstep

/-- A deletion takes effect on a live entry alone. -/
theorem entryMove_offlineDelete (k : SnapshotKey) (summary : List (BitVec 8))
    (now : SnapshotTime) : EntryMove s key (.offlineDelete k summary now) := by
  have hstep : s.step (.offlineDelete k summary now) = (s.offlineDelete k summary now).2 := rfl
  have hedit : (SnapshotOp.offlineDelete k summary now).Edits key s ↔
      k = key ∧ s.initialized = true ∧ (s.get k).isSome = true := Iff.rfl
  unfold offlineDelete at hstep
  unfold get at hedit
  by_cases hi : s.initialized = false
  · rw [if_pos hi] at hstep
    exact kept_of_eq (fun hl => by simp [hi] at hedit; exact hedit hl) hstep
  rw [if_neg hi] at hstep
  cases he : s.entries.lookup k with
  | none =>
      simp only [he] at hstep hedit
      exact kept_of_eq (fun hl => by simp at hedit; exact hedit hl) hstep
  | some e =>
      simp only [he] at hstep hedit
      by_cases hlive : e.live = false
      · rw [if_pos hlive] at hstep
        exact kept_of_eq (fun hl => by simp [hlive] at hedit; exact hedit hl) hstep
      rw [if_neg hlive] at hstep
      have hlive' : e.live = true := by simpa using hlive
      rw [if_pos hlive'] at hedit
      by_cases hk : key = k
      · have hget : s.get k = some e.value := by
          unfold get
          simp only [he]
          rw [if_pos hlive']
        refine .edited
          { e with
            live := false
            dirty := true
            editedAt := now.seconds
            summary := addSummary e.summary summary
            editSeq := e.editSeq + 1 }
          (hedit.mpr ⟨hk.symm, by simpa using hi, rfl⟩)
          (by rw [hstep, lookup_put, if_pos hk]) rfl ⟨rfl, hget.symm⟩ ?_
        rw [hk, he]
        rfl
      · exact kept_of_put (fun hl => hk (hedit.mp hl).1.symm) hk hstep

theorem entryMove_watchUpdate (k : SnapshotKey) (value : Option JsonText) :
    EntryMove s key (.watchUpdate k value) := by
  have hno : ¬ (SnapshotOp.watchUpdate k value).Edits key s := fun hl => hl
  have hstep : s.step (.watchUpdate k value) = s.watchUpdate k value := rfl
  unfold watchUpdate at hstep
  by_cases hi : s.initialized = false
  · rw [if_pos hi] at hstep
    exact kept_of_eq hno hstep
  rw [if_neg hi] at hstep
  cases he : s.entries.lookup k with
  | none =>
      simp only [he] at hstep
      by_cases hk : key = k
      · refine .mirrored _ ⟨value, by rw [hk]⟩ (by rw [hstep, lookup_put, if_pos hk]) ?_ ?_
        · rw [hk, he]
          rfl
        · rw [hk, he]
          rfl
      · exact kept_of_put hno hk hstep
  | some e =>
      simp only [he] at hstep
      by_cases hdirty : e.dirty = true
      · rw [if_pos hdirty] at hstep
        exact kept_of_eq hno hstep
      rw [if_neg hdirty] at hstep
      by_cases hsame : e.live = value.isSome ∧ e.value = value.getD .empty
      · rw [if_pos hsame] at hstep
        exact kept_of_eq hno hstep
      rw [if_neg hsame] at hstep
      by_cases hk : key = k
      · refine .mirrored _ ⟨value, by rw [hk]⟩ (by rw [hstep, lookup_put, if_pos hk]) ?_ ?_
        · rw [hk, he]
          simpa using hdirty
        · rw [hk, he]
          rfl
      · exact kept_of_put hno hk hstep

/-- A clear takes effect on an entry that still has the copy's number. -/
theorem entryMove_clearCopied (n : Nat) : EntryMove s key (.clearCopied n) := by
  have hno : ¬ (SnapshotOp.clearCopied n).Edits key s := fun hl => hl
  cases hitem : s.copied[n]? with
  | none =>
      have hstep : s.step (.clearCopied n) = s := by simp only [step, hitem]
      exact kept_of_eq hno hstep
  | some item =>
      have hstep : s.step (.clearCopied n) = s.clearDirty item.key item.editSeq := by
        simp only [step, hitem]
      unfold clearDirty at hstep
      cases he : s.entries.lookup item.key with
      | none =>
          simp only [he] at hstep
          exact kept_of_eq hno hstep
      | some e =>
          simp only [he] at hstep
          by_cases hseq : e.editSeq ≠ item.editSeq
          · rw [if_pos hseq] at hstep
            exact kept_of_eq hno hstep
          rw [if_neg hseq] at hstep
          by_cases hk : key = item.key
          · exact .cleared n item e { e with dirty := false, summary := [] } rfl hitem hk.symm
              (by rw [hk, he]) (not_not.mp hseq) (by rw [hstep, lookup_put, if_pos hk]) rfl
          · exact kept_of_put hno hk hstep

/-- Every operation leaves the entry of a key in one of these ways. -/
theorem entryMove (s : ConfigSnapshot) (key : SnapshotKey) (l : SnapshotOp) :
    EntryMove s key l := by
  cases l with
  | offlineEdit k value summary now => exact entryMove_offlineEdit k value summary now
  | offlineDelete k summary now => exact entryMove_offlineDelete k summary now
  | watchUpdate k value => exact entryMove_watchUpdate k value
  | copyDirty => exact .kept (fun hl => hl) rfl
  | clearCopied n => exact entryMove_clearCopied n

/-! ### The copies -/

theorem offlineEdit_copied (k : SnapshotKey) (value : JsonText) (summary : List (BitVec 8))
    (now : SnapshotTime) : (s.offlineEdit k value summary now).2.copied = s.copied := by
  unfold offlineEdit
  split
  · rfl
  · split
    · rfl
    · split <;> rfl

theorem offlineDelete_copied (k : SnapshotKey) (summary : List (BitVec 8)) (now : SnapshotTime) :
    (s.offlineDelete k summary now).2.copied = s.copied := by
  unfold offlineDelete
  split
  · rfl
  · split
    · rfl
    · split <;> rfl

theorem watchUpdate_copied (k : SnapshotKey) (value : Option JsonText) :
    (s.watchUpdate k value).copied = s.copied := by
  unfold watchUpdate
  split
  · rfl
  · dsimp only
    split
    · split
      · rfl
      · split <;> rfl
    · rfl

theorem clearDirty_copied (k : SnapshotKey) (seq : Nat) :
    (s.clearDirty k seq).copied = s.copied := by
  unfold clearDirty
  split
  · rfl
  · split <;> rfl

/-- Only a report that begins takes copies. -/
theorem step_copied (s : ConfigSnapshot) (l : SnapshotOp) :
    (s.step l).copied = s.copied ∨ l = .copyDirty := by
  cases l with
  | offlineEdit k value summary now => exact .inl (offlineEdit_copied k value summary now)
  | offlineDelete k summary now => exact .inl (offlineDelete_copied k summary now)
  | watchUpdate k value => exact .inl (watchUpdate_copied k value)
  | copyDirty => exact .inr rfl
  | clearCopied n =>
      left
      unfold step
      dsimp only
      split
      · rfl
      · exact clearDirty_copied _ _

/-- The copies taken so far stay where they are. -/
theorem step_copied_getElem? (s : ConfigSnapshot) (l : SnapshotOp) {i : Nat}
    (hi : i < s.copied.length) : (s.step l).copied[i]? = s.copied[i]? := by
  rcases step_copied s l with h | h
  · rw [h]
  · rw [h]
    exact List.getElem?_append_left hi

/-- A copy in the dirty set has its entry's number. -/
theorem mem_dirtyItems {item : DirtyItem} (h : item ∈ s.dirtyItems) :
    ∃ e, s.entries.lookup item.key = some e ∧ item.editSeq = e.editSeq := by
  unfold dirtyItems at h
  obtain ⟨⟨k, e⟩, hmem, hitem⟩ := List.mem_map.mp h
  refine ⟨e, ?_, ?_⟩
  · rw [← hitem]
    exact AList.mem_lookup_iff.mpr (List.mem_of_mem_filter hmem)
  · rw [← hitem]
    rfl

/-- No copy is ahead of its entry. -/
def CopiesBehind (s : ConfigSnapshot) : Prop :=
  ∀ item ∈ s.copied, ∃ e, s.entries.lookup item.key = some e ∧ item.editSeq ≤ e.editSeq

/-- The number of an entry does not fall. -/
theorem editSeq_mono {e : SnapshotEntry} (he : s.entries.lookup key = some e) (l : SnapshotOp) :
    ∃ e', (s.step l).entries.lookup key = some e' ∧ e.editSeq ≤ e'.editSeq := by
  cases entryMove s key l with
  | kept _ h => exact ⟨e, by rw [h, he], Nat.le_refl _⟩
  | edited e' _ h _ _ hseq =>
      rw [he] at hseq
      exact ⟨e', h, by rw [hseq]; exact Nat.le_succ _⟩
  | mirrored e' _ h _ hseq =>
      rw [he] at hseq
      exact ⟨e', h, by rw [hseq]; exact Nat.le_refl _⟩
  | cleared _ _ e₀ e' _ _ _ he₀ _ h hseq =>
      have heq : e = e₀ := Option.some.inj (he.symm.trans he₀)
      exact ⟨e', h, by rw [hseq, heq]⟩

theorem CopiesBehind.step (h : s.CopiesBehind) (l : SnapshotOp) : (s.step l).CopiesBehind := by
  intro item hitem
  have hold : (∃ e, s.entries.lookup item.key = some e ∧ item.editSeq ≤ e.editSeq) →
      ∃ e, (s.step l).entries.lookup item.key = some e ∧ item.editSeq ≤ e.editSeq := by
    intro hex
    obtain ⟨e, he, hle⟩ := hex
    obtain ⟨e', he', hle'⟩ := editSeq_mono he l
    exact ⟨e', he', Nat.le_trans hle hle'⟩
  rcases step_copied s l with hc | hc
  · rw [hc] at hitem
    exact hold (h item hitem)
  · subst hc
    rcases List.mem_append.mp hitem with hmem | hmem
    · exact hold (h item hmem)
    · obtain ⟨e, he, hseq⟩ := mem_dirtyItems hmem
      exact ⟨e, he, Nat.le_of_eq hseq⟩

theorem run_copiesBehind {entries : AList (fun _ : SnapshotKey => SnapshotEntry)}
    {ls : List SnapshotOp} (h : Run ConfigSnapshot.step (fun _ _ => True) (loaded entries) ls s) :
    s.CopiesBehind := by
  refine h.inv CopiesBehind (fun s l hs _ => hs.step l) ?_
  intro item hitem
  cases hitem

/-! ### An edit is kept -/

/-- What an edit leaves. -/
theorem edit_entry {l : SnapshotOp} (hl : l.Edits key s) : ∃ e,
    (s.step l).entries.lookup key = some e ∧ e.dirty = true ∧ l.Wrote s e ∧
      e.editSeq = ((s.entries.lookup key).getD .zero).editSeq + 1 := by
  cases entryMove s key l with
  | edited e _ h hdirty hwrote hseq => exact ⟨e, h, hdirty, hwrote, hseq⟩
  | kept hno _ => exact absurd hl hno
  | mirrored _ hw _ _ _ =>
      obtain ⟨value, rfl⟩ := hw
      exact hl.elim
  | cleared n _ _ _ hc _ _ _ _ _ _ =>
      subst hc
      exact hl.elim

/-- The entry is dirty and as it was, and the first `n` copies are of earlier edits. -/
structure Keeps (key : SnapshotKey) (e : SnapshotEntry) (n : Nat) (s : ConfigSnapshot) : Prop where
  dirty : e.dirty = true
  entry : s.entries.lookup key = some e
  taken : n ≤ s.copied.length
  older : ∀ i item, i < n → s.copied[i]? = some item → item.key = key → item.editSeq < e.editSeq

/-- An edit makes every copy taken so far an old one. -/
theorem keeps_edit (hs : s.CopiesBehind) {l : SnapshotOp} (hl : l.Edits key s) : ∃ e,
    l.Wrote s e ∧ (s.step l).Keeps key e (s.step l).copied.length := by
  obtain ⟨e, he, hdirty, hwrote, hseq⟩ := edit_entry hl
  have hcopied : (s.step l).copied = s.copied := by
    rcases step_copied s l with h | h
    · exact h
    · subst h
      exact hl.elim
  refine ⟨e, hwrote, hdirty, he, Nat.le_refl _, ?_⟩
  intro i item _ hitem hkey
  rw [hcopied] at hitem
  obtain ⟨e₀, he₀, hle⟩ := hs item (List.mem_of_getElem? hitem)
  rw [hkey] at he₀
  rw [he₀, Option.getD_some] at hseq
  omega

/-- A watch update leaves a dirty entry. -/
theorem watchUpdate_dirty {e : SnapshotEntry} (he : s.entries.lookup key = some e)
    (hdirty : e.dirty = true) (k : SnapshotKey) (value : Option JsonText) :
    (s.watchUpdate k value).entries.lookup key = some e := by
  cases entryMove s key (.watchUpdate k value) with
  | kept _ h => exact h.trans he
  | edited _ hl _ _ _ _ => exact hl.elim
  | mirrored _ _ _ hclean _ =>
      rw [he, Option.getD_some, hdirty] at hclean
      cases hclean
  | cleared _ _ _ _ hc _ _ _ _ _ _ => cases hc

theorem Keeps.step {e : SnapshotEntry} {n : Nat} (h : s.Keeps key e n) {l : SnapshotOp}
    (hedit : ¬ l.Edits key s) (hclear : ¬ l.ClearsSince n key s) : (s.step l).Keeps key e n := by
  have htaken : n ≤ (s.step l).copied.length := by
    rcases step_copied s l with hc | hc
    · rw [hc]
      exact h.taken
    · subst hc
      have hlen : (s.step .copyDirty).copied.length = s.copied.length + s.dirtyItems.length :=
        List.length_append
      have := h.taken
      omega
  refine ⟨h.dirty, ?_, htaken, ?_⟩
  · cases entryMove s key l with
    | kept _ hk => rw [hk, h.entry]
    | edited _ hl _ _ _ _ => exact absurd hl hedit
    | mirrored _ hl _ _ _ =>
        obtain ⟨value, rfl⟩ := hl
        exact watchUpdate_dirty h.entry h.dirty key value
    | cleared i item e₀ _ hl hitem hkey he₀ heq _ _ =>
        subst hl
        exfalso
        by_cases hi : i < n
        · have hlt := h.older i item hi hitem hkey
          have heqe : e = e₀ := Option.some.inj (h.entry.symm.trans he₀)
          rw [heqe] at hlt
          omega
        · exact hclear ⟨by omega, item, hitem, hkey⟩
  · intro i item hi hitem hkey
    have := h.taken
    rw [step_copied_getElem? s l (by omega)] at hitem
    exact h.older i item hi hitem hkey

/--
**An offline edit is not lost.** Whatever was done since the start, an operation that edits or
deletes an entry leaves it dirty with what was written, and the entry stays exactly so through
every further run in which the key is not edited again and no report clears it with a copy taken
after the edit.  And in every state reached, a watch update leaves each dirty entry as it is.
-/
theorem run_edit_kept (entries : AList (fun _ : SnapshotKey => SnapshotEntry))
    {ls : List SnapshotOp}
    (h : Run ConfigSnapshot.step (fun _ _ => True) (loaded entries) ls s) :
    (∀ (key : SnapshotKey) (l : SnapshotOp), l.Edits key s →
      ∃ e, l.Wrote s e ∧ e.dirty = true ∧ (s.step l).entries.lookup key = some e ∧
        ∀ (ls' : List SnapshotOp) (s' : ConfigSnapshot),
          Run ConfigSnapshot.step
            (fun t l' => ¬ l'.Edits key t ∧ ¬ l'.ClearsSince (s.step l).copied.length key t)
            (s.step l) ls' s' →
          s'.entries.lookup key = some e) ∧
    (∀ (key : SnapshotKey) (e : SnapshotEntry), s.entries.lookup key = some e → e.dirty = true →
      ∀ (k : SnapshotKey) (value : Option JsonText),
        (s.watchUpdate k value).entries.lookup key = some e) := by
  refine ⟨?_, ?_⟩
  · intro key l hl
    obtain ⟨e, hwrote, hkeeps⟩ := keeps_edit (run_copiesBehind h) hl
    refine ⟨e, hwrote, hkeeps.dirty, hkeeps.entry, ?_⟩
    intro ls' s' hrun
    have hinv := hrun.inv (Keeps key e (s.step l).copied.length)
      (fun t l' ht hg => ht.step hg.1 hg.2) hkeeps
    exact hinv.entry
  · intro key e he hdirty k value
    exact watchUpdate_dirty he hdirty k value

/-- An entry edited, copied by a report, and edited again. -/
def editedTwice : List SnapshotOp :=
  let edit := SnapshotOp.offlineEdit (.hsi, [49]) (.doc (.obj [])) [] ⟨0, []⟩
  [edit, .copyDirty, edit]

/-- The report then clears its copy, and a watch update comes in: the second edit is still there. -/
theorem run_edit_kept_raced : ∃ e : SnapshotEntry, e.dirty = true ∧
    (editedTwice.foldl ConfigSnapshot.step (loaded ∅)).entries.lookup (.hsi, [49]) = some e ∧
    ([.clearCopied 0, .watchUpdate (.hsi, [49]) none].foldl ConfigSnapshot.step
      (editedTwice.foldl ConfigSnapshot.step (loaded ∅))).entries.lookup (.hsi, [49]) = some e := by
  have hbefore : Run ConfigSnapshot.step (fun _ _ => True) (loaded ∅) (editedTwice.take 2)
      ((editedTwice.take 2).foldl ConfigSnapshot.step (loaded ∅)) :=
    Run.of_labels _ _ fun _ _ _ => trivial
  have hedit : (SnapshotOp.offlineEdit (.hsi, [49]) (.doc (.obj [])) [] ⟨0, []⟩).Edits (.hsi, [49])
      ((editedTwice.take 2).foldl ConfigSnapshot.step (loaded ∅)) := ⟨rfl, rfl⟩
  obtain ⟨e, _, hdirty, hentry, hkept⟩ := (run_edit_kept ∅ hbefore).1 _ _ hedit
  refine ⟨e, hdirty, hentry, hkept _ _ (Run.of_labels _ _ ?_)⟩
  intro t l hl
  rcases List.mem_cons.mp hl with hl | hl
  · subst hl
    refine ⟨fun h => h, fun h => ?_⟩
    have hcopies : (editedTwice.foldl ConfigSnapshot.step (loaded ∅)).copied.length = 1 := by rfl
    have hle : (editedTwice.foldl ConfigSnapshot.step (loaded ∅)).copied.length ≤ 0 := h.1
    omega
  · rw [List.mem_singleton.mp hl]
    exact ⟨fun h => h, fun h => h⟩

end ConfigSnapshot

end FastRG
