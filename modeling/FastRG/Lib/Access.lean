/-
Touching several buffers, and knowing where.

Code that copies between buffers must stay inside the one it reads as much as inside the one it
writes.  `Access` is a computation that carries its value and, for every byte it reads or writes,
which buffer that byte is in and at which offset.  What is stored is a matter of the value; `Within`
is the bound on the offsets, one for each buffer, with one rule for each way of putting computations
together.
-/
import Mathlib.Tactic.Common

/-- A computation over the buffers `ι`: its value, and the bytes it touched. -/
structure Access (ι α : Type) where
  val : α
  log : List (ι × Nat)

namespace Access

variable {ι α β : Type}

instance : Monad (Access ι) where
  pure a := ⟨a, []⟩
  bind x f := ⟨(f x.val).val, x.log ++ (f x.val).log⟩

@[simp] theorem val_pure (a : α) : (pure a : Access ι α).val = a := rfl

@[simp] theorem val_bind (x : Access ι α) (f : α → Access ι β) :
    (x >>= f).val = (f x.val).val := rfl

@[simp] theorem val_ite {c : Prop} [Decidable c] (x y : Access ι α) :
    (if c then x else y).val = if c then x.val else y.val := by
  split <;> rfl

/-- A computation that goes on only if the one before it gave a value. -/
def andThen (x : Access ι (Option α)) (f : α → Access ι (Option β)) : Access ι (Option β) :=
  x >>= fun a => a.elim (pure none) f

@[simp] theorem val_andThen (x : Access ι (Option α)) (f : α → Access ι (Option β)) :
    (x.andThen f).val = x.val.bind fun a => (f a).val := by
  unfold andThen
  rw [val_bind]
  cases x.val with
  | none => rfl
  | some a => rfl

/-! ### Bytes -/

/-- One byte read. -/
def u8 (b : ι) (mem : List (BitVec 8)) (off : Nat) : Access ι (BitVec 8) :=
  ⟨mem.getD off 0, [(b, off)]⟩

/-- A run of bytes read. -/
def bytes (b : ι) (mem : List (BitVec 8)) (off len : Nat) : Access ι (List (BitVec 8)) :=
  ⟨(mem.drop off).take len, (List.range len).map fun i => (b, off + i)⟩

/-- A run of bytes written. -/
def put (b : ι) (off len : Nat) : Access ι Unit :=
  ⟨(), (List.range len).map fun i => (b, off + i)⟩

@[simp] theorem val_u8 (b : ι) (mem : List (BitVec 8)) (off : Nat) :
    (u8 b mem off).val = mem.getD off 0 := rfl

@[simp] theorem val_bytes (b : ι) (mem : List (BitVec 8)) (off len : Nat) :
    (bytes b mem off len).val = (mem.drop off).take len := rfl

/-! ### How far a computation reaches -/

/-- Every byte touched lies inside its buffer. -/
def Within (size : ι → Nat) (x : Access ι α) : Prop := ∀ p ∈ x.log, p.2 < size p.1

variable {size : ι → Nat} {b : ι} {mem : List (BitVec 8)} {off len : Nat}

theorem within_pure (a : α) : Within size (pure a : Access ι α) := by
  intro p hp
  exact absurd hp List.not_mem_nil

theorem within_bind {x : Access ι α} {f : α → Access ι β} (hx : Within size x)
    (hf : Within size (f x.val)) : Within size (x >>= f) := by
  intro p hp
  rcases List.mem_append.mp hp with h | h
  · exact hx p h
  · exact hf p h

theorem within_ite {c : Prop} [Decidable c] {x y : Access ι α} (hx : c → Within size x)
    (hy : ¬ c → Within size y) : Within size (if c then x else y) := by
  split
  · exact hx ‹c›
  · exact hy ‹¬ c›

theorem within_andThen {x : Access ι (Option α)} {f : α → Access ι (Option β)}
    (hx : Within size x) (hf : ∀ a, x.val = some a → Within size (f a)) :
    Within size (x.andThen f) := by
  refine within_bind hx ?_
  cases hval : x.val with
  | none => exact within_pure _
  | some a => exact hf a hval

theorem within_u8 (h : off < size b) : Within size (u8 b mem off) := by
  intro p hp
  obtain rfl := List.mem_singleton.mp hp
  exact h

theorem within_bytes (h : off + len ≤ size b) : Within size (bytes b mem off len) := by
  intro p hp
  obtain ⟨i, hi, rfl⟩ := List.mem_map.mp hp
  have hlt : i < len := List.mem_range.mp hi
  show off + i < size b
  omega

theorem within_put (h : off + len ≤ size b) : Within size (put b off len) := by
  intro p hp
  obtain ⟨i, hi, rfl⟩ := List.mem_map.mp hp
  have hlt : i < len := List.mem_range.mp hi
  show off + i < size b
  omega

end Access
