/-
Lists of items that have a text each, edited by it.

An edit writes an item over the first one that has its text, or adds it at the end, or takes out
every item with a text.  Edits like these behave as those of a map do, whatever the list is: an
edit leaves the items with another text where they are (`dropBy_apply`), made twice it is made
once (`apply_apply`), and two of different texts may change places, but for the order in which
both add at the end (`apply_perm`).

What a list says is read off its items one by one (`readAll`).  An item may stop the reading, or
be passed over.
-/
import Mathlib.Data.List.Perm.Basic
import Mathlib.Tactic.Common

variable {ι κ τ ρ β : Type} [DecidableEq τ]

/-! ### Edits -/

/-- An item written over the first with its text, or added. -/
def putBy (text : ι → τ) (x : ι) : List ι → List ι
  | [] => [x]
  | y :: rest => if text y = text x then x :: rest else y :: putBy text x rest

/-- Every item with a text taken out. -/
def dropBy (text : ι → τ) (k : τ) (l : List ι) : List ι := l.filter fun y => text y ≠ k

variable {text : ι → τ}

theorem dropBy_cons_of_eq {k : τ} {y : ι} (h : text y = k) (l : List ι) :
    dropBy text k (y :: l) = dropBy text k l := by
  simp [dropBy, h]

theorem dropBy_cons_of_ne {k : τ} {y : ι} (h : text y ≠ k) (l : List ι) :
    dropBy text k (y :: l) = y :: dropBy text k l := by
  simp [dropBy, h]

theorem putBy_cons_of_eq {x y : ι} (h : text y = text x) (l : List ι) :
    putBy text x (y :: l) = x :: l := if_pos h

theorem putBy_cons_of_ne {x y : ι} (h : text y ≠ text x) (l : List ι) :
    putBy text x (y :: l) = y :: putBy text x l := if_neg h

/-- Where an item is written: behind those before the first with its text. -/
theorem putBy_eq (x : ι) (l : List ι) :
    putBy text x l = (l.takeWhile fun y => text y ≠ text x) ++
      x :: (l.dropWhile fun y => text y ≠ text x).tail := by
  induction l with
  | nil => rfl
  | cons y rest ih =>
      by_cases h : text y = text x
      · rw [putBy_cons_of_eq h, List.takeWhile_cons_of_neg (by simp [h]),
          List.dropWhile_cons_of_neg (by simp [h])]
        rfl
      · rw [putBy_cons_of_ne h, ih, List.takeWhile_cons_of_pos (by simp [h]),
          List.dropWhile_cons_of_pos (by simp [h])]
        rfl

theorem dropBy_putBy_self (x : ι) (l : List ι) :
    dropBy text (text x) (putBy text x l) = dropBy text (text x) l := by
  induction l with
  | nil => exact dropBy_cons_of_eq rfl []
  | cons y rest ih =>
      by_cases h : text y = text x
      · rw [putBy_cons_of_eq h, dropBy_cons_of_eq rfl, dropBy_cons_of_eq h]
      · rw [putBy_cons_of_ne h, dropBy_cons_of_ne h, dropBy_cons_of_ne h, ih]

theorem dropBy_putBy_of_ne {x : ι} {k : τ} (h : text x ≠ k) (l : List ι) :
    dropBy text k (putBy text x l) = putBy text x (dropBy text k l) := by
  induction l with
  | nil => exact dropBy_cons_of_ne h []
  | cons y rest ih =>
      by_cases hx : text y = text x
      · have hk : text y ≠ k := fun hk => h (hx.symm.trans hk)
        rw [putBy_cons_of_eq hx, dropBy_cons_of_ne h, dropBy_cons_of_ne hk, putBy_cons_of_eq hx]
      · rw [putBy_cons_of_ne hx]
        by_cases hk : text y = k
        · rw [dropBy_cons_of_eq hk, dropBy_cons_of_eq hk, ih]
        · rw [dropBy_cons_of_ne hk, dropBy_cons_of_ne hk, putBy_cons_of_ne hx, ih]

theorem putBy_putBy (x : ι) (l : List ι) : putBy text x (putBy text x l) = putBy text x l := by
  induction l with
  | nil => exact putBy_cons_of_eq rfl []
  | cons y rest ih =>
      by_cases h : text y = text x
      · rw [putBy_cons_of_eq h, putBy_cons_of_eq rfl]
      · rw [putBy_cons_of_ne h, putBy_cons_of_ne h, ih]

/-- Two items with different texts, in either order. -/
theorem putBy_perm {x y : ι} (h : text x ≠ text y) (l : List ι) :
    (putBy text x (putBy text y l)).Perm (putBy text y (putBy text x l)) := by
  induction l with
  | nil =>
      show (putBy text x [y]).Perm (putBy text y [x])
      rw [putBy_cons_of_ne h.symm, putBy_cons_of_ne h]
      exact List.Perm.swap x y []
  | cons z rest ih =>
      by_cases hx : text z = text x
      · have hy : text z ≠ text y := fun hy => h (hx.symm.trans hy)
        rw [putBy_cons_of_ne hy, putBy_cons_of_eq hx, putBy_cons_of_eq hx, putBy_cons_of_ne h]
      · by_cases hy : text z = text y
        · rw [putBy_cons_of_eq hy, putBy_cons_of_ne hx, putBy_cons_of_eq hy,
            putBy_cons_of_ne h.symm]
        · rw [putBy_cons_of_ne hy, putBy_cons_of_ne hx, putBy_cons_of_ne hx, putBy_cons_of_ne hy]
          exact ih.cons z

theorem dropBy_dropBy (k : τ) (l : List ι) : dropBy text k (dropBy text k l) = dropBy text k l := by
  refine List.filter_eq_self.mpr ?_
  intro y hy
  exact (List.mem_filter.mp hy).2

theorem dropBy_comm (k k' : τ) (l : List ι) :
    dropBy text k (dropBy text k' l) = dropBy text k' (dropBy text k l) := by
  unfold dropBy
  exact List.filter_comm ..

/-- An edit of a list. -/
inductive KeyedEdit (ι τ : Type)
  | put (x : ι)
  | drop (k : τ)

namespace KeyedEdit

variable (text) in
/-- The text an edit is about. -/
def key : KeyedEdit ι τ → τ
  | put x => text x
  | drop k => k

variable (text) in
def apply : KeyedEdit ι τ → List ι → List ι
  | put x, l => putBy text x l
  | drop k, l => dropBy text k l

/-- The same edit, of other items. -/
def map (f : ι → κ) : KeyedEdit ι τ → KeyedEdit κ τ
  | put x => put (f x)
  | drop k => drop k

omit [DecidableEq τ] in
theorem key_map {text' : κ → τ} {f : ι → κ} (hf : ∀ y, text' (f y) = text y)
    (e : KeyedEdit ι τ) : (e.map f).key text' = e.key text := by
  cases e with
  | put x => exact hf x
  | drop k => rfl

/-- An item of the edited list was there, or is the one written. -/
theorem mem_apply {e : KeyedEdit ι τ} {l : List ι} {y : ι} (h : y ∈ e.apply text l) :
    y ∈ l ∨ e = put y := by
  cases e with
  | put x =>
      induction l with
      | nil => exact Or.inr (congrArg put (List.mem_singleton.mp h).symm)
      | cons z rest ih =>
          have h' : y ∈ putBy text x (z :: rest) := h
          by_cases hz : text z = text x
          · rw [putBy_cons_of_eq hz] at h'
            rcases List.mem_cons.mp h' with hy | hy
            · exact Or.inr (congrArg put hy.symm)
            · exact Or.inl (List.mem_cons_of_mem z hy)
          · rw [putBy_cons_of_ne hz] at h'
            rcases List.mem_cons.mp h' with hy | hy
            · exact Or.inl (hy ▸ List.mem_cons_self)
            · rcases ih hy with hold | hnew
              · exact Or.inl (List.mem_cons_of_mem z hold)
              · exact Or.inr hnew
  | drop k => exact Or.inl (List.mem_of_mem_filter h)

/-- The items with another text stay, in their order. -/
theorem dropBy_apply (e : KeyedEdit ι τ) (l : List ι) :
    dropBy text (e.key text) (e.apply text l) = dropBy text (e.key text) l := by
  cases e with
  | put x => exact dropBy_putBy_self x l
  | drop k => exact dropBy_dropBy k l

/-- An edit made twice is made once. -/
theorem apply_apply (e : KeyedEdit ι τ) (l : List ι) :
    e.apply text (e.apply text l) = e.apply text l := by
  cases e with
  | put x => exact putBy_putBy x l
  | drop k => exact dropBy_dropBy k l

/-- Edits about different texts may change places. -/
theorem apply_perm {e e' : KeyedEdit ι τ} (h : e.key text ≠ e'.key text) (l : List ι) :
    (e'.apply text (e.apply text l)).Perm (e.apply text (e'.apply text l)) := by
  cases e with
  | put x =>
      cases e' with
      | put y =>
          have hne : text y ≠ text x := Ne.symm h
          exact putBy_perm hne l
      | drop k =>
          have hne : text x ≠ k := h
          exact .of_eq (dropBy_putBy_of_ne hne l)
  | drop k =>
      cases e' with
      | put y =>
          have hne : text y ≠ k := Ne.symm h
          exact .of_eq (dropBy_putBy_of_ne hne l).symm
      | drop k' => exact .of_eq (dropBy_comm k' k l)

/-- Items changed but for their texts: the edit of the changed ones. -/
theorem map_apply {text' : κ → τ} {f : ι → κ} (hf : ∀ y, text' (f y) = text y)
    (e : KeyedEdit ι τ) (l : List ι) :
    (e.apply text l).map f = (e.map f).apply text' (l.map f) := by
  cases e with
  | put x =>
      show (putBy text x l).map f = putBy text' (f x) (l.map f)
      induction l with
      | nil => rfl
      | cons y rest ih =>
          rw [List.map_cons]
          by_cases h : text y = text x
          · have h' : text' (f y) = text' (f x) := by rw [hf, hf, h]
            rw [putBy_cons_of_eq h, putBy_cons_of_eq h', List.map_cons]
          · have h' : text' (f y) ≠ text' (f x) := by rw [hf, hf]; exact h
            rw [putBy_cons_of_ne h, putBy_cons_of_ne h', List.map_cons, ih]
  | drop k =>
      show (dropBy text k l).map f = dropBy text' k (l.map f)
      unfold dropBy
      rw [List.filter_map]
      congr 2
      funext y
      simp [hf]

end KeyedEdit

/-! ### Reading a list -/

/-- The items read in order.  One that stops the reading leaves nothing; one that says nothing is
passed over. -/
def readAll (read : ι → Option (Option ρ)) : List ι → Option (List ρ)
  | [] => some []
  | x :: rest => (read x).bind fun r => (readAll read rest).map fun rs => r.toList ++ rs

variable {read : ι → Option (Option ρ)}

theorem readAll_append (l l' : List ι) :
    readAll read (l ++ l') =
      (readAll read l).bind fun rs => (readAll read l').map fun rs' => rs ++ rs' := by
  induction l with
  | nil =>
      show readAll read l' = (readAll read l').map _
      cases readAll read l' with
      | none => rfl
      | some rs' => rfl
  | cons x rest ih =>
      rw [List.cons_append, readAll, readAll, ih]
      cases read x with
      | none => rfl
      | some r =>
          cases readAll read rest with
          | none => rfl
          | some rs =>
              cases readAll read l' with
              | none => rfl
              | some rs' => exact congrArg some (List.append_assoc ..).symm

/-- What is read of a list around an item that is read. -/
theorem readAll_around {x : ι} {r : ρ} (hx : read x = some (some r)) (l l' : List ι)
    (rs : List ρ) :
    readAll read (l ++ x :: l') = some rs ↔
      ∃ older later, readAll read l = some older ∧ readAll read l' = some later ∧
        rs = older ++ r :: later := by
  rw [readAll_append, readAll, hx]
  cases readAll read l with
  | none => simp
  | some older =>
      cases readAll read l' with
      | none => simp
      | some later => simp [eq_comm]

/-- What is said of a list, item by item. -/
theorem filterMap_readAll (tell : ρ → Option β) {l : List ι} {rs : List ρ}
    (h : readAll read l = some rs) :
    rs.filterMap tell = l.filterMap fun x => (read x).join.bind tell := by
  induction l generalizing rs with
  | nil =>
      cases h
      rfl
  | cons x rest ih =>
      rw [readAll] at h
      obtain ⟨r, hr, hrest⟩ := Option.bind_eq_some_iff.mp h
      obtain ⟨rs', hrs', hrs⟩ := Option.map_eq_some_iff.mp hrest
      rw [← hrs, List.filterMap_append, ih hrs', List.filterMap_cons, hr]
      cases r with
      | none => rfl
      | some r =>
          show [r].filterMap tell ++ _ = _
          cases htell : tell r with
          | none => simp [htell]
          | some v => simp [htell]

/-- Items that read the same as others make a list that reads the same. -/
theorem readAll_map {f : ι → ι} {l : List ι} (h : ∀ x ∈ l, read (f x) = read x) :
    readAll read (l.map f) = readAll read l := by
  induction l with
  | nil => rfl
  | cons x rest ih =>
      rw [List.map_cons, readAll, readAll, h x List.mem_cons_self,
        ih fun y hy => h y (List.mem_cons_of_mem x hy)]

/-- What the items of a text say nothing of is said without them. -/
theorem filterMap_dropBy {k : τ} {tell : ι → Option β} {l : List ι}
    (h : ∀ x ∈ l, text x = k → tell x = none) :
    (dropBy text k l).filterMap tell = l.filterMap tell := by
  induction l with
  | nil => rfl
  | cons x rest ih =>
      have hrest := ih fun y hy => h y (List.mem_cons_of_mem x hy)
      by_cases hk : text x = k
      · rw [dropBy_cons_of_eq hk, hrest, List.filterMap_cons_none (h x List.mem_cons_self hk)]
      · rw [dropBy_cons_of_ne hk, List.filterMap_cons, List.filterMap_cons, hrest]
