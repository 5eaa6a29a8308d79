/-
A pool of slots that is scanned, a chunk at a time, from a shared cursor.

A call of the scan fetches the cursor and moves it on by a chunk, in one atomic step.  It
then looks at the slots from there on, one a turn, and after a chunk of them it returns.
Several calls are in flight at once, and their turns interleave with one another and with
whatever else is done to the pool.

The cursor is 32 bits wide and wraps.  Where the chunk divides the number of slots and that
divides the modulus, the wrap is not felt: as many consecutive calls as there are chunks look
at each slot exactly once (`CursorScan.covers`).  And where a look at a slot settles it, and
nothing unsettles a slot again, every slot is settled once those calls have returned
(`Settles.round`).
-/
import FastRG.Lib.Run
import Mathlib.Data.Nat.ModEq

/-- The slot that turn `n` of a call which fetched `start` looks at. -/
def cursorSlot (size : Nat) (start : BitVec 32) (n : Nat) : Nat :=
  (start + BitVec.ofNat 32 n).toNat % size

/-- What one call after another fetches, from a cursor of `start` on. -/
def cursorAfter (chunk start : BitVec 32) (j : Nat) : BitVec 32 := start + chunk * BitVec.ofNat 32 j

/--
A pool that is scanned: its states `σ`, what the environment answers a call that returns
`ε`, and the other operations on it `ο`.  A visit carries the call's count along.
-/
structure CursorScan (σ ε ο : Type) where
  size : Nat
  chunk : BitVec 32
  cursor : σ → BitVec 32
  fetch : σ → σ
  visit : (now : Nat) → (start : BitVec 32) → Nat × σ → (n : Nat) → Nat × σ
  finish : ε → Nat × σ → σ
  op : σ → ο → σ
  time : ο → Nat

/-- A call of the scan, and how far it has got. -/
structure ScanCall where
  start : BitVec 32
  now : Nat
  turn : Nat
  count : Nat
  returned : Bool

/-- The pool, and every call so far in the order in which they fetched the cursor. -/
structure ScanState (σ : Type) where
  pool : σ
  calls : List ScanCall

/-- What may happen next: a call begins, takes its next turn or returns, or something else. -/
inductive ScanAct (ε ο : Type)
  | fetch (now : Nat)
  | turn (c : Nat)
  | finish (c : Nat) (e : ε)
  | op (o : ο)

namespace CursorScan

variable {σ ε ο : Type} (w : CursorScan σ ε ο)

/-- A call takes its next turn, if it has one left. -/
def turnCall (s : ScanState σ) (c : Nat) (call : ScanCall) : ScanState σ :=
  if call.turn < w.chunk.toNat then
    let r := w.visit call.now call.start (call.count, s.pool) call.turn
    ⟨r.2, s.calls.set c { call with turn := call.turn + 1, count := r.1 }⟩
  else s

/-- A call that has taken all of its turns returns. -/
def finishCall (s : ScanState σ) (c : Nat) (call : ScanCall) (e : ε) : ScanState σ :=
  if call.turn = w.chunk.toNat ∧ call.returned = false then
    ⟨w.finish e (call.count, s.pool), s.calls.set c { call with returned := true }⟩
  else s

/-- An operation that moved the cursor by a chunk has made a call of its own, start to end. -/
def ownCalls (p p' : σ) (now : Nat) : List ScanCall :=
  if w.cursor p' = w.cursor p + w.chunk then [⟨w.cursor p, now, w.chunk.toNat, 0, true⟩] else []

/-- One step. -/
def step (s : ScanState σ) : ScanAct ε ο → ScanState σ
  | .fetch now => ⟨w.fetch s.pool, s.calls ++ [⟨w.cursor s.pool, now, 0, 0, false⟩]⟩
  | .turn c => (s.calls[c]?).elim s (w.turnCall s c)
  | .finish c e => (s.calls[c]?).elim s fun call => w.finishCall s c call e
  | .op o => ⟨w.op s.pool o, s.calls ++ w.ownCalls s.pool (w.op s.pool o) (w.time o)⟩

/-- As many calls as there are chunks have begun since `s₀`, and they have returned. -/
structure Round (s₀ s : ScanState σ) : Prop where
  begun : s₀.calls.length + w.size / w.chunk.toNat ≤ s.calls.length
  returned : ∀ j < w.size / w.chunk.toNat, ∀ call, s.calls[s₀.calls.length + j]? = some call →
    call.returned = true

/-- Each slot is looked at by exactly one of the round's calls, in exactly one of its turns. -/
def LooksOnce (s₀ s : ScanState σ) : Prop :=
  ∀ i < w.size, ∃! p : Nat × Nat, p.1 < w.size / w.chunk.toNat ∧ p.2 < w.chunk.toNat ∧
    ∃ call, s.calls[s₀.calls.length + p.1]? = some call ∧ cursorSlot w.size call.start p.2 = i

/-! ### The arithmetic of the cursor -/

/-- The sizes fit: the chunk divides the pool, and the pool the range of the cursor. -/
structure Fits : Prop where
  pos : 0 < w.chunk.toNat
  chunk : w.chunk.toNat ∣ w.size
  size : w.size ∣ 4294967296

variable {w}

/-- Wrapping does not change which slot is meant. -/
theorem cursorSlot_after {size : Nat} (hsize : size ∣ 4294967296) (chunk start : BitVec 32)
    (j n : Nat) : cursorSlot size (cursorAfter chunk start j) n
      = (start.toNat + (chunk.toNat * j + n)) % size := by
  have hwrap : ∀ a, a % 4294967296 ≡ a [MOD size] := fun a => Nat.mod_mod_of_dvd a hsize
  unfold cursorSlot cursorAfter
  rw [BitVec.toNat_add, BitVec.toNat_add, BitVec.toNat_mul, BitVec.toNat_ofNat,
    BitVec.toNat_ofNat]
  have hmul : chunk.toNat * (j % 4294967296) % 4294967296 ≡ chunk.toNat * j [MOD size] :=
    (hwrap _).trans ((hwrap j).mul_left _)
  have hstart : (start.toNat + chunk.toNat * (j % 4294967296) % 4294967296) % 4294967296
      ≡ start.toNat + chunk.toNat * j [MOD size] :=
    (hwrap _).trans (hmul.add_left _)
  have hall := (hwrap _).trans (hstart.add (hwrap n))
  rw [Nat.add_assoc] at hall
  exact hall

/--
**Consecutive calls look at each slot exactly once.**  Whatever the cursor is, for each slot
there is one call of the round and one turn of it that looks at the slot.
-/
theorem Fits.covers (h : w.Fits) (start : BitVec 32) {i : Nat} (hi : i < w.size) :
    ∃! p : Nat × Nat, p.1 < w.size / w.chunk.toNat ∧ p.2 < w.chunk.toNat ∧
      cursorSlot w.size (cursorAfter w.chunk start p.1) p.2 = i := by
  obtain ⟨hpos, hchunk, hsize⟩ := h
  -- the slot is `k` turns ahead of the cursor
  have hk : (i + w.size - start.toNat % w.size) % w.size < w.size := Nat.mod_lt _ (by omega)
  have hlands : (start.toNat + (i + w.size - start.toNat % w.size) % w.size) % w.size = i := by
    have hlt : start.toNat % w.size < w.size := Nat.mod_lt _ (by omega)
    have hstart := Nat.div_add_mod start.toNat w.size
    have hsum : start.toNat + (i + w.size - start.toNat % w.size)
        = i + w.size + w.size * (start.toNat / w.size) := by omega
    rw [Nat.add_mod_mod, hsum, Nat.add_mul_mod_self_left, Nat.add_mod_right, Nat.mod_eq_of_lt hi]
  generalize (i + w.size - start.toNat % w.size) % w.size = k at hk hlands
  refine ⟨(k / w.chunk.toNat, k % w.chunk.toNat), ⟨?_, Nat.mod_lt _ hpos, ?_⟩, ?_⟩
  · exact Nat.div_lt_div_of_lt_of_dvd hchunk hk
  · rw [cursorSlot_after hsize, Nat.div_add_mod]
    exact hlands
  · intro p hp
    obtain ⟨hcall, hturn, hslot⟩ := hp
    rw [cursorSlot_after hsize] at hslot
    have hlt : w.chunk.toNat * p.1 + p.2 < w.size := by
      have hle : w.chunk.toNat * (p.1 + 1) ≤ w.chunk.toNat * (w.size / w.chunk.toNat) :=
        Nat.mul_le_mul_left _ hcall
      rw [Nat.mul_div_cancel' hchunk, Nat.mul_add] at hle
      omega
    have hsame : start.toNat + (w.chunk.toNat * p.1 + p.2) ≡ start.toNat + k [MOD w.size] :=
      hslot.trans hlands.symm
    have hk' : w.chunk.toNat * p.1 + p.2 = k :=
      (hsame.add_left_cancel' _).eq_of_lt_of_lt hlt hk
    refine Prod.ext ?_ ?_
    · show p.1 = k / w.chunk.toNat
      rw [← hk', Nat.mul_add_div hpos, Nat.div_eq_of_lt hturn, Nat.add_zero]
    · show p.2 = k % w.chunk.toNat
      rw [← hk', Nat.mul_add_mod, Nat.mod_eq_of_lt hturn]

/-! ### What a step does -/

variable {s s₀ s' : ScanState σ} {ls : List (ScanAct ε ο)}

/-- A turn is a visit, if the call is there and has one left. -/
theorem step_turn (s : ScanState σ) (c : Nat) : w.step s (.turn c) = s ∨
    ∃ call, s.calls[c]? = some call ∧ call.turn < w.chunk.toNat ∧
      w.step s (.turn c) = ⟨(w.visit call.now call.start (call.count, s.pool) call.turn).2,
        s.calls.set c { call with
          turn := call.turn + 1
          count := (w.visit call.now call.start (call.count, s.pool) call.turn).1 }⟩ := by
  have hstep : w.step s (.turn c) = (s.calls[c]?).elim s (w.turnCall s c) := rfl
  rw [hstep]
  cases hc : s.calls[c]? with
  | none => exact Or.inl rfl
  | some call =>
      show w.turnCall s c call = s ∨ ∃ call', some call = some call' ∧ _ ∧ w.turnCall s c call = _
      unfold turnCall
      by_cases hturn : call.turn < w.chunk.toNat
      · rw [if_pos hturn]
        exact Or.inr ⟨call, rfl, hturn, rfl⟩
      · exact Or.inl (if_neg hturn)

/-- A call returns, if it is there and has taken its turns. -/
theorem step_finish (s : ScanState σ) (c : Nat) (e : ε) : w.step s (.finish c e) = s ∨
    ∃ call, s.calls[c]? = some call ∧ call.turn = w.chunk.toNat ∧ call.returned = false ∧
      w.step s (.finish c e) = ⟨w.finish e (call.count, s.pool),
        s.calls.set c { call with returned := true }⟩ := by
  have hstep : w.step s (.finish c e)
      = (s.calls[c]?).elim s fun call => w.finishCall s c call e := rfl
  rw [hstep]
  cases hc : s.calls[c]? with
  | none => exact Or.inl rfl
  | some call =>
      show w.finishCall s c call e = s ∨
        ∃ call', some call = some call' ∧ _ ∧ _ ∧ w.finishCall s c call e = _
      unfold finishCall
      by_cases hlast : call.turn = w.chunk.toNat ∧ call.returned = false
      · rw [if_pos hlast]
        exact Or.inr ⟨call, rfl, hlast.1, hlast.2, rfl⟩
      · exact Or.inl (if_neg hlast)

/-- What the parts of a call keep of the pool, and the other operations, a step keeps. -/
theorem step_pool {P : σ → Prop} {s : ScanState σ} (a : ScanAct ε ο) (h : P s.pool)
    (hfetch : P (w.fetch s.pool))
    (hvisit : ∀ c call, a = .turn c → s.calls[c]? = some call → call.turn < w.chunk.toNat →
      P (w.visit call.now call.start (call.count, s.pool) call.turn).2)
    (hfinish : ∀ e count, P (w.finish e (count, s.pool)))
    (hop : ∀ o, a = .op o → P (w.op s.pool o)) : P (w.step s a).pool := by
  cases a with
  | fetch now => exact hfetch
  | turn c =>
      rcases step_turn s c with heq | ⟨call, hc, hturn, heq⟩
      · rw [heq]
        exact h
      · rw [heq]
        exact hvisit c call rfl hc hturn
  | finish c e =>
      rcases step_finish s c e with heq | ⟨call, -, -, -, heq⟩
      · rw [heq]
        exact h
      · rw [heq]
        exact hfinish e call.count
  | op o => exact hop o rfl

/-- A call that is written over one is there in its place, and the others as they were. -/
theorem getElem?_set_call {calls : List ScanCall} {c c' : Nat} {call call' call'' : ScanCall}
    (hc : calls[c]? = some call) (h : (calls.set c call')[c']? = some call'') :
    (c' = c ∧ call'' = call') ∨ (c' ≠ c ∧ calls[c']? = some call'') := by
  rw [List.getElem?_set] at h
  by_cases heq : c = c'
  · subst heq
    rw [if_pos rfl, if_pos (List.getElem?_eq_some_iff.mp hc).1] at h
    exact Or.inl ⟨rfl, (Option.some.inj h).symm⟩
  · rw [if_neg heq] at h
    exact Or.inr ⟨Ne.symm heq, h⟩

/-- A call that is put behind the others is the last. -/
theorem getElem?_push_call {calls : List ScanCall} {c : Nat} {call call' : ScanCall}
    (h : (calls ++ [call'])[c]? = some call) :
    (c = calls.length ∧ call = call') ∨ calls[c]? = some call := by
  by_cases hlt : c < calls.length
  · rw [List.getElem?_append_left hlt] at h
    exact Or.inr h
  · rw [List.getElem?_append_right (Nat.le_of_not_lt hlt)] at h
    obtain ⟨hlast, heq⟩ := List.getElem?_eq_some_iff.mp h
    have hzero : c - calls.length = 0 := by simpa using hlast
    refine Or.inl ⟨by omega, ?_⟩
    simp only [hzero, List.getElem_cons_zero] at heq
    exact heq.symm

/-! ### Calls follow one another -/

variable (w) in
/-- The calls since `s₀` have fetched one chunk after another. -/
structure Consecutive (s₀ s : ScanState σ) : Prop where
  more : s₀.calls.length ≤ s.calls.length
  cursor : w.cursor s.pool
    = cursorAfter w.chunk (w.cursor s₀.pool) (s.calls.length - s₀.calls.length)
  start : ∀ j call, s.calls[s₀.calls.length + j]? = some call →
    call.start = cursorAfter w.chunk (w.cursor s₀.pool) j

variable (w) in
/-- What a call does to the cursor: it moves it on when it begins, and not again. -/
structure Fetches : Prop where
  fetch : ∀ p, w.cursor (w.fetch p) = w.cursor p + w.chunk
  visit : ∀ now start t n, w.cursor (w.visit now start t n).2 = w.cursor t.2
  finish : ∀ e t, w.cursor (w.finish e t) = w.cursor t.2

variable (w) in
/-- Another operation leaves the cursor where it is, or makes a call of its own. -/
def KeepsCursor (p : σ) (o : ο) : Prop :=
  w.cursor (w.op p o) = w.cursor p ∨ w.cursor (w.op p o) = w.cursor p + w.chunk

theorem cursorAfter_succ (chunk start : BitVec 32) (j : Nat) :
    cursorAfter chunk start j + chunk = cursorAfter chunk start (j + 1) := by
  unfold cursorAfter
  rw [BitVec.ofNat_add, BitVec.mul_add, show BitVec.ofNat 32 1 = 1#32 from rfl, BitVec.mul_one,
    BitVec.add_assoc]

/-- Without a chunk the cursor would not move. -/
theorem Fits.ne_add (h : w.Fits) (x : BitVec 32) : x ≠ x + w.chunk := by
  intro heq
  have hzero : w.chunk = 0#32 := BitVec.self_eq_add_right.mp heq
  have hpos := h.pos
  rw [hzero] at hpos
  exact absurd hpos (by decide)

namespace Consecutive

theorem refl (s₀ : ScanState σ) : w.Consecutive s₀ s₀ where
  more := Nat.le_refl _
  cursor := by
    rw [Nat.sub_self]
    unfold cursorAfter
    rw [show BitVec.ofNat 32 0 = 0#32 from rfl, BitVec.mul_zero, BitVec.add_zero]
  start j call hcall := by
    rw [List.getElem?_eq_none (Nat.le_add_right _ _)] at hcall
    cases hcall

/-- A call goes on, where it began. -/
theorem set {p : σ} {c : Nat} {call call' : ScanCall} (h : w.Consecutive s₀ s)
    (hc : s.calls[c]? = some call) (hstart : call'.start = call.start)
    (hcursor : w.cursor p = w.cursor s.pool) : w.Consecutive s₀ ⟨p, s.calls.set c call'⟩ := by
  refine ⟨?_, ?_, ?_⟩
  · rw [List.length_set]
    exact h.more
  · rw [List.length_set, hcursor]
    exact h.cursor
  · intro j call'' hj
    rcases getElem?_set_call hc hj with ⟨heq, rfl⟩ | ⟨-, hj⟩
    · rw [hstart]
      exact h.start j call (heq ▸ hc)
    · exact h.start j call'' hj

/-- A call begins. -/
theorem push {p : σ} {call : ScanCall} (h : w.Consecutive s₀ s)
    (hstart : call.start = w.cursor s.pool) (hcursor : w.cursor p = w.cursor s.pool + w.chunk) :
    w.Consecutive s₀ ⟨p, s.calls ++ [call]⟩ := by
  have hmore := h.more
  refine ⟨?_, ?_, ?_⟩
  · rw [List.length_append]
    omega
  · rw [List.length_append, List.length_singleton, Nat.sub_add_comm hmore, hcursor, h.cursor,
      cursorAfter_succ]
  · intro j call' hj
    rcases getElem?_push_call hj with ⟨hlast, rfl⟩ | hj
    · rw [hstart, h.cursor, ← hlast, Nat.add_sub_cancel_left]
    · exact h.start j call' hj

/-- One step, if it does not set the cursor back. -/
theorem step (hfits : w.Fits) (hw : w.Fetches) (h : w.Consecutive s₀ s) (a : ScanAct ε ο)
    (hop : ∀ o, a = .op o → w.KeepsCursor s.pool o) : w.Consecutive s₀ (w.step s a) := by
  cases a with
  | fetch now => exact h.push rfl (hw.fetch s.pool)
  | turn c =>
      rcases step_turn s c with heq | ⟨call, hc, -, heq⟩
      · rw [heq]
        exact h
      · rw [heq]
        exact h.set hc rfl (hw.visit _ _ _ _)
  | finish c e =>
      rcases step_finish s c e with heq | ⟨call, hc, -, -, heq⟩
      · rw [heq]
        exact h
      · rw [heq]
        exact h.set hc rfl (hw.finish _ _)
  | op o =>
      show w.Consecutive s₀ ⟨w.op s.pool o, s.calls ++ w.ownCalls s.pool (w.op s.pool o) _⟩
      unfold ownCalls
      rcases hop o rfl with hsame | hmoved
      · rw [if_neg (fun hchunk => hfits.ne_add _ (hsame.symm.trans hchunk)), List.append_nil]
        exact ⟨h.more, hsame.trans h.cursor, h.start⟩
      · rw [if_pos hmoved]
        exact h.push rfl hmoved

/-- A whole run in which no operation sets the cursor back, where `I` is an invariant. -/
theorem run {guard : ScanState σ → ScanAct ε ο → Prop} {I : σ → Prop} (hfits : w.Fits)
    (hw : w.Fetches) (hinv : ∀ s a, I s.pool → guard s a → I (w.step s a).pool)
    (hop : ∀ s o, I s.pool → guard s (.op o) → w.KeepsCursor s.pool o) (hI : I s₀.pool)
    (hrun : Run w.step guard s₀ ls s) : w.Consecutive s₀ s := by
  have hboth : I s.pool ∧ w.Consecutive s₀ s := by
    refine hrun.inv (fun s => I s.pool ∧ w.Consecutive s₀ s) ?_ ⟨hI, refl s₀⟩
    intro s a h hguard
    refine ⟨hinv s a h.1 hguard, h.2.step hfits hw a ?_⟩
    intro o ho
    subst ho
    exact hop s o h.1 hguard
  exact hboth.2

/-- **Each slot is looked at once**, if the calls of the round are consecutive. -/
theorem looksOnce (hfits : w.Fits) (h : w.Consecutive s₀ s)
    (hbegun : s₀.calls.length + w.size / w.chunk.toNat ≤ s.calls.length) : w.LooksOnce s₀ s := by
  intro i hi
  obtain ⟨p, ⟨hcall, hturn, hslot⟩, huniq⟩ := hfits.covers (w.cursor s₀.pool) hi
  refine ⟨p, ⟨hcall, hturn, ?_⟩, ?_⟩
  · have hlt : s₀.calls.length + p.1 < s.calls.length := by omega
    refine ⟨_, List.getElem?_eq_getElem hlt, ?_⟩
    rw [h.start p.1 _ (List.getElem?_eq_getElem hlt)]
    exact hslot
  · intro q hq
    obtain ⟨hcall', hturn', call, hcalls, hslot'⟩ := hq
    rw [h.start q.1 call hcalls] at hslot'
    exact huniq q ⟨hcall', hturn', hslot'⟩

end Consecutive

/-! ### A round settles every slot -/

variable (w) in
/-- The call has looked at the slots of the turns it has taken, and they are settled. -/
structure Seen (P : Nat → σ → Prop) (t₀ : Nat) (p : σ) (call : ScanCall) : Prop where
  now : t₀ ≤ call.now
  turn : call.turn ≤ w.chunk.toNat
  all : call.returned = true → call.turn = w.chunk.toNat
  slots : ∀ n < call.turn, P (cursorSlot w.size call.start n) p

variable (w) in
/--
`P i` says that slot `i` is settled.  While `I` holds of the pool, a look at a slot settles
it if the clock then read `t₀` or more, and nothing that the guard lets happen unsettles it.
-/
structure Settles (I : σ → Prop) (P : Nat → σ → Prop) (t₀ : Nat)
    (guard : ScanState σ → ScanAct ε ο → Prop) : Prop where
  inv : ∀ s a, I s.pool → guard s a → I (w.step s a).pool
  keep : ∀ s a i, I s.pool → guard s a → P i s.pool → P i (w.step s a).pool
  fetch : ∀ s now, guard s (.fetch now) → t₀ ≤ now
  visit : ∀ s c call, I s.pool → guard s (.turn c) → s.calls[c]? = some call →
    call.turn < w.chunk.toNat → t₀ ≤ call.now → P (cursorSlot w.size call.start call.turn)
      (w.visit call.now call.start (call.count, s.pool) call.turn).2
  time : ∀ s o, guard s (.op o) → t₀ ≤ w.time o
  own : ∀ s o, I s.pool → guard s (.op o) →
    w.cursor (w.op s.pool o) = w.cursor s.pool + w.chunk →
      ∀ n < w.chunk.toNat, P (cursorSlot w.size (w.cursor s.pool) n) (w.op s.pool o)
  reset : ∀ s o, I s.pool → guard s (.op o) → w.KeepsCursor s.pool o ∨
    ∀ i < w.size, P i (w.op s.pool o)

namespace Settles

variable {I : σ → Prop} {P : Nat → σ → Prop} {t₀ : Nat}
  {guard : ScanState σ → ScanAct ε ο → Prop}

/-- What holds all through the round. -/
structure Sound (w : CursorScan σ ε ο) (I : σ → Prop) (P : Nat → σ → Prop) (t₀ : Nat)
    (s₀ s : ScanState σ) : Prop where
  inv : I s.pool
  seen : ∀ c call, s₀.calls.length ≤ c → s.calls[c]? = some call → w.Seen P t₀ s.pool call
  order : w.Consecutive s₀ s ∨ ∀ i < w.size, P i s.pool

theorem seen_keep {p p' : σ} {call : ScanCall} (hkeep : ∀ i, P i p → P i p')
    (h : w.Seen P t₀ p call) : w.Seen P t₀ p' call :=
  ⟨h.now, h.turn, h.all, fun n hn => hkeep _ (h.slots n hn)⟩

theorem sound_seen (hs : w.Settles I P t₀ guard) (h : Sound w I P t₀ s₀ s) (a : ScanAct ε ο)
    (hguard : guard s a) :
    ∀ c call, s₀.calls.length ≤ c → (w.step s a).calls[c]? = some call →
      w.Seen P t₀ (w.step s a).pool call := by
  have hkeep : ∀ c call, s₀.calls.length ≤ c → s.calls[c]? = some call →
      w.Seen P t₀ (w.step s a).pool call := fun c call hc hcall =>
    seen_keep (fun i => hs.keep s a i h.inv hguard) (h.seen c call hc hcall)
  intro c call hc hcall
  cases a with
  | fetch now =>
      rcases getElem?_push_call hcall with ⟨-, rfl⟩ | hold
      · refine ⟨hs.fetch s now hguard, Nat.zero_le _, nofun, ?_⟩
        intro n hn
        exact absurd hn (Nat.not_lt_zero n)
      · exact hkeep c call hc hold
  | turn c' =>
      rcases step_turn s c' with heq | ⟨old, hold, hturn, heq⟩
      · rw [heq] at hcall
        exact hkeep c call hc hcall
      · rw [heq] at hcall hkeep ⊢
        rcases getElem?_set_call hold hcall with ⟨rfl, rfl⟩ | ⟨-, hcall⟩
        · obtain ⟨hnow, -, hall, hslots⟩ := hkeep c old hc hold
          refine ⟨hnow, hturn, ?_, ?_⟩
          · intro hret
            have hfull := hall hret
            omega
          · intro n hn
            rcases Nat.lt_succ_iff_lt_or_eq.mp hn with hlt | rfl
            · exact hslots n hlt
            · exact hs.visit s c old h.inv hguard hold hturn hnow
        · exact hkeep c call hc hcall
  | finish c' e =>
      rcases step_finish s c' e with heq | ⟨old, hold, hlast, -, heq⟩
      · rw [heq] at hcall
        exact hkeep c call hc hcall
      · rw [heq] at hcall hkeep ⊢
        rcases getElem?_set_call hold hcall with ⟨rfl, rfl⟩ | ⟨-, hcall⟩
        · obtain ⟨hnow, hle, -, hslots⟩ := hkeep c old hc hold
          exact ⟨hnow, hle, fun _ => hlast, hslots⟩
        · exact hkeep c call hc hcall
  | op o =>
      replace hcall : (s.calls ++ w.ownCalls s.pool (w.op s.pool o) (w.time o))[c]?
        = some call := hcall
      unfold ownCalls at hcall
      by_cases hown : w.cursor (w.op s.pool o) = w.cursor s.pool + w.chunk
      · rw [if_pos hown] at hcall
        rcases getElem?_push_call hcall with ⟨-, rfl⟩ | hold
        · exact ⟨hs.time s o hguard, Nat.le_refl _, fun _ => rfl, hs.own s o h.inv hguard hown⟩
        · exact hkeep c call hc hold
      · rw [if_neg hown, List.append_nil] at hcall
        exact hkeep c call hc hcall

theorem sound_order (hfits : w.Fits) (hw : w.Fetches) (hs : w.Settles I P t₀ guard)
    (h : Sound w I P t₀ s₀ s) (a : ScanAct ε ο) (hguard : guard s a) :
    w.Consecutive s₀ (w.step s a) ∨ ∀ i < w.size, P i (w.step s a).pool := by
  rcases h.order with horder | hall
  · by_cases hreset : ∀ o, a = .op o → w.KeepsCursor s.pool o
    · exact Or.inl (horder.step hfits hw a hreset)
    · obtain ⟨o, hset⟩ := not_forall.mp hreset
      obtain ⟨rfl, hback⟩ := Classical.not_imp.mp hset
      exact Or.inr ((hs.reset s o h.inv hguard).resolve_left hback)
  · exact Or.inr fun i hi => hs.keep s a i h.inv hguard (hall i hi)

theorem sound_run (hfits : w.Fits) (hw : w.Fetches) (hs : w.Settles I P t₀ guard)
    (hI : I s₀.pool) (hrun : Run w.step guard s₀ ls s) : Sound w I P t₀ s₀ s := by
  refine hrun.inv (Sound w I P t₀ s₀) ?_ ⟨hI, ?_, Or.inl (.refl s₀)⟩
  · intro s a h hguard
    exact ⟨hs.inv s a h.inv hguard, hs.sound_seen h a hguard,
      hs.sound_order hfits hw h a hguard⟩
  · intro c call hc hcall
    rw [List.getElem?_eq_none hc] at hcall
    cases hcall

/--
**A round settles every slot.**  Once as many consecutive calls as there are chunks have
returned, whatever else went on meanwhile.
-/
theorem round (hfits : w.Fits) (hw : w.Fetches) (hs : w.Settles I P t₀ guard) (hI : I s₀.pool)
    (hrun : Run w.step guard s₀ ls s) (hround : w.Round s₀ s) {i : Nat} (hi : i < w.size) :
    P i s.pool := by
  have hsound := hs.sound_run hfits hw hI hrun
  rcases hsound.order with horder | hall
  · obtain ⟨p, ⟨hcall, hturn, call, hcalls, hslot⟩, -⟩ := horder.looksOnce hfits hround.begun _ hi
    have hseen := hsound.seen _ call (Nat.le_add_right _ _) hcalls
    rw [← hslot]
    refine hseen.slots p.2 ?_
    rw [hseen.all (hround.returned p.1 hcall call hcalls)]
    exact hturn
  · exact hall i hi

end Settles

/-! ### A call that nothing interrupts -/

variable (w) in
/-- A whole call: the fetch, a turn for each slot of the chunk, and the return. -/
def whole (now : Nat) (e : ε) (p : σ) : σ :=
  w.finish e ((List.range w.chunk.toNat).foldl (w.visit now (w.cursor p)) (0, w.fetch p))

theorem Fetches.foldl (hw : w.Fetches) (now : Nat) (start : BitVec 32) (ns : List Nat)
    (t : Nat × σ) : w.cursor (ns.foldl (w.visit now start) t).2 = w.cursor t.2 := by
  induction ns generalizing t with
  | nil => rfl
  | cons n ns ih =>
      rw [List.foldl_cons, ih]
      exact hw.visit now start t n

/-- A whole call moves the cursor on by a chunk. -/
theorem Fetches.whole (hw : w.Fetches) (now : Nat) (e : ε) (p : σ) :
    w.cursor (w.whole now e p) = w.cursor p + w.chunk := by
  unfold CursorScan.whole
  rw [hw.finish, hw.foldl]
  exact hw.fetch p

/-! ### Operations that make calls of their own -/

/-- Operations one after another.  The calls they make of their own return. -/
theorem foldl_ops (os : List ο) (s : ScanState σ) :
    ∃ own : List ScanCall, (∀ call ∈ own, call.returned = true) ∧
      ((∀ o ∈ os, ∀ p, w.cursor (w.op p o) = w.cursor p + w.chunk) → own.length = os.length) ∧
      (os.map ScanAct.op).foldl w.step s = ⟨os.foldl w.op s.pool, s.calls ++ own⟩ := by
  induction os generalizing s with
  | nil => exact ⟨[], nofun, fun _ => rfl, by rw [List.append_nil]; rfl⟩
  | cons o os ih =>
      obtain ⟨own, hret, hlen, heq⟩ := ih (w.step s (.op o))
      refine ⟨w.ownCalls s.pool (w.op s.pool o) (w.time o) ++ own, ?_, ?_, ?_⟩
      · intro call hcall
        rcases List.mem_append.mp hcall with hfirst | hcall
        · unfold ownCalls at hfirst
          split at hfirst
          · rw [List.mem_singleton.mp hfirst]
          · cases hfirst
        · exact hret call hcall
      · intro hos
        have hown : w.ownCalls s.pool (w.op s.pool o) (w.time o)
            = [⟨w.cursor s.pool, w.time o, w.chunk.toNat, 0, true⟩] :=
          if_pos (hos o List.mem_cons_self s.pool)
        rw [hown, List.length_append, hlen fun o ho => hos o (List.mem_cons_of_mem _ ho),
          List.length_singleton, List.length_cons, Nat.add_comm]
      · rw [List.map_cons, List.foldl_cons, heq, ← List.append_assoc]
        rfl

/-- Enough of those that each make a call are a round, from wherever as many had begun. -/
theorem round_of_own {os : List ο}
    (hos : ∀ o ∈ os, ∀ p, w.cursor (w.op p o) = w.cursor p + w.chunk)
    (henough : w.size / w.chunk.toNat ≤ os.length) (hlen : s₀.calls.length = s.calls.length) :
    w.Round s₀ ((os.map ScanAct.op).foldl w.step s) := by
  obtain ⟨own, hret, hown, heq⟩ := foldl_ops (w := w) os s
  rw [heq]
  refine ⟨?_, ?_⟩
  · show _ ≤ (s.calls ++ own).length
    rw [List.length_append, hown hos, hlen]
    exact Nat.add_le_add_left henough _
  · intro j _ call hcall
    replace hcall : (s.calls ++ own)[s₀.calls.length + j]? = some call := hcall
    rw [hlen, List.getElem?_append_right (Nat.le_add_right _ _)] at hcall
    exact hret call (List.mem_of_getElem? hcall)

end CursorScan
