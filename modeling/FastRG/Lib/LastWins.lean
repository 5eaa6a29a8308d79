/-
The map that a list of settings is, when a later setting goes before an earlier one.

Each element of the list says something about a key, or nothing; `lastWins` is what the last one
to say something says.  A loop that carries out the settings in order arrives at that map if each
step writes what its element says over what was there (`foldl_lastWins`).
-/
import Mathlib.Tactic.Common

variable {α β σ : Type}

/-- What the last element to say something says. -/
def lastWins (tells : α → Option β) (l : List α) : Option β := (l.filterMap tells).getLast?

theorem lastWins_cons (tells : α → Option β) (a : α) (l : List α) :
    lastWins tells (a :: l) = (lastWins tells l).or (tells a) := by
  unfold lastWins
  rw [List.filterMap_cons]
  cases tells a with
  | none => exact Option.or_none.symm
  | some v =>
      show (v :: l.filterMap tells).getLast? = _
      rw [List.getLast?_cons]
      cases (l.filterMap tells).getLast? with
      | none => rfl
      | some w => rfl

theorem lastWins_append (tells : α → Option β) (l l' : List α) :
    lastWins tells (l ++ l') = (lastWins tells l').or (lastWins tells l) := by
  induction l with
  | nil => exact Option.or_none.symm
  | cons a rest ih =>
      rw [List.cons_append, lastWins_cons, ih, lastWins_cons, Option.or_assoc]

/-- What one element says is said of a list with it unless a later one says otherwise. -/
theorem lastWins_around {tells : α → Option β} {a : α} {v : β} (ha : tells a = some v)
    (older later : List α) :
    lastWins tells (older ++ a :: later) = some v ↔
      ∀ v', lastWins tells later = some v' → v' = v := by
  rw [lastWins_append, lastWins_cons, ha]
  cases lastWins tells later with
  | none => simp
  | some w => simp

/-- The same, of as many elements of the list as are heard. -/
theorem lastWins_take_around {tells : α → Option β} {a : α} {v : β} (ha : tells a = some v)
    (older later : List α) (n : Nat) :
    lastWins tells ((older ++ a :: later).take n) = some v ↔
      (older.length < n → ∀ v', lastWins tells (later.take (n - older.length - 1)) = some v' →
        v' = v) ∧
      (n ≤ older.length → lastWins tells (older.take n) = some v) := by
  rw [List.take_append]
  by_cases hn : n ≤ older.length
  · rw [Nat.sub_eq_zero_of_le hn, List.take_zero, List.append_nil]
    exact ⟨fun h => ⟨fun hlt => absurd hn (Nat.not_le_of_lt hlt), fun _ => h⟩, fun h => h.2 hn⟩
  · have hlt := Nat.lt_of_not_le hn
    have hpos : n - older.length = n - older.length - 1 + 1 := by omega
    rw [List.take_of_length_le (Nat.le_of_lt hlt), hpos, List.take_succ_cons,
      lastWins_around ha, Nat.add_sub_cancel]
    exact ⟨fun h => ⟨fun _ => h, fun hle => absurd hle hn⟩, fun h => h.1 hlt⟩

/-- Nothing is said. -/
theorem lastWins_eq_none_iff {tells : α → Option β} {l : List α} :
    lastWins tells l = none ↔ ∀ a ∈ l, tells a = none := by
  unfold lastWins
  rw [List.getLast?_eq_none_iff, List.filterMap_eq_nil_iff]

/-- Something is said as soon as one element says something. -/
theorem lastWins_isSome_iff {tells : α → Option β} {l : List α} :
    (lastWins tells l).isSome = true ↔ ∃ a ∈ l, (tells a).isSome = true := by
  rw [← not_iff_not]
  simp only [Option.not_isSome_iff_eq_none, lastWins_eq_none_iff, not_exists, not_and,
    Option.not_isSome_iff_eq_none]

/-- What is said is said by an element. -/
theorem exists_of_lastWins {tells : α → Option β} {l : List α} {v : β}
    (h : lastWins tells l = some v) : ∃ a ∈ l, tells a = some v :=
  List.mem_filterMap.mp (List.mem_of_getLast? h)

/-- Steps that each write what their element says over what was there end at the map. -/
theorem foldl_lastWins (tells : α → Option β) (step : σ → α → σ) (view : σ → Option β)
    (I : σ → Prop) (l : List α)
    (hstep : ∀ a ∈ l, ∀ s, I s → I (step s a) ∧ view (step s a) = (tells a).or (view s))
    (s : σ) (hs : I s) :
    I (l.foldl step s) ∧ view (l.foldl step s) = (lastWins tells l).or (view s) := by
  induction l generalizing s with
  | nil => exact ⟨hs, rfl⟩
  | cons a rest ih =>
      obtain ⟨ha, hview⟩ := hstep a List.mem_cons_self s hs
      obtain ⟨hrest, hviews⟩ := ih (fun b hb => hstep b (List.mem_cons_of_mem a hb)) _ ha
      refine ⟨hrest, ?_⟩
      rw [List.foldl_cons, hviews, hview, lastWins_cons, Option.or_assoc]
