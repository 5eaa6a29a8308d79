/-
Reading a packet, and knowing what was read.

Code that parses a packet reads single bytes of a buffer, and whether it stays inside
the packet is as much a property of it as what it makes of them.  `Rd` is a computation
that carries both: its value, and the offset of every byte it looked at.  The value is
obtained by projecting, so nothing about values has to mention offsets; and `Below` is
the bound on the offsets, with one rule for each way of putting computations together.
-/
import Mathlib.Tactic.Common

/-- A computation over a buffer: its value, and the offsets of the bytes it read. -/
structure Rd (α : Type) where
  val : α
  offs : List Nat

namespace Rd

variable {α β : Type}

instance : Monad Rd where
  pure a := ⟨a, []⟩
  bind x f := ⟨(f x.val).val, x.offs ++ (f x.val).offs⟩

@[simp] theorem val_pure (a : α) : (pure a : Rd α).val = a := rfl

@[simp] theorem offs_pure (a : α) : (pure a : Rd α).offs = [] := rfl

@[simp] theorem val_bind (x : Rd α) (f : α → Rd β) : (x >>= f).val = (f x.val).val := rfl

@[simp] theorem val_ite {c : Prop} [Decidable c] (x y : Rd α) :
    (if c then x else y).val = if c then x.val else y.val := by
  split <;> rfl

/-- A computation that goes on only if the one before it gave a value. -/
def andThen (x : Rd (Option α)) (f : α → Rd (Option β)) : Rd (Option β) :=
  x >>= fun a => a.elim (pure none) f

@[simp] theorem val_andThen (x : Rd (Option α)) (f : α → Rd (Option β)) :
    (x.andThen f).val = x.val.bind fun a => (f a).val := by
  unfold andThen
  rw [val_bind]
  cases x.val with
  | none => rfl
  | some a => rfl

/-! ### Reading bytes -/

/-- One byte. -/
def u8 (mem : Nat → BitVec 8) (off : Nat) : Rd (BitVec 8) := ⟨mem off, [off]⟩

/-- A run of bytes. -/
def bytes (mem : Nat → BitVec 8) (off len : Nat) : Rd (List (BitVec 8)) :=
  ⟨(List.range len).map fun i => mem (off + i), (List.range len).map fun i => off + i⟩

/-- Two bytes as a little-endian machine loads them. -/
def u16 (mem : Nat → BitVec 8) (off : Nat) : Rd (BitVec 16) := do
  let lo ← u8 mem off
  let hi ← u8 mem (off + 1)
  return hi ++ lo

/-- Two bytes in network order. -/
def be16 (mem : Nat → BitVec 8) (off : Nat) : Rd (BitVec 16) := do
  let hi ← u8 mem off
  let lo ← u8 mem (off + 1)
  return hi ++ lo

/-- Four bytes in network order. -/
def be32 (mem : Nat → BitVec 8) (off : Nat) : Rd (BitVec 32) := do
  let hi ← be16 mem off
  let lo ← be16 mem (off + 2)
  return hi ++ lo

/-! ### How far a computation reads -/

/-- Every byte read lies below `limit`. -/
def Below (limit : Nat) (x : Rd α) : Prop := ∀ off ∈ x.offs, off < limit

variable {limit : Nat} {mem : Nat → BitVec 8} {off : Nat}

theorem below_pure (a : α) : Below limit (pure a : Rd α) := by
  intro off hoff
  simp at hoff

theorem below_bind {x : Rd α} {f : α → Rd β} (hx : Below limit x) (hf : Below limit (f x.val)) :
    Below limit (x >>= f) := by
  intro off hoff
  rcases List.mem_append.mp hoff with h | h
  · exact hx off h
  · exact hf off h

theorem below_ite {c : Prop} [Decidable c] {x y : Rd α} (hx : c → Below limit x)
    (hy : ¬ c → Below limit y) : Below limit (if c then x else y) := by
  split
  · exact hx ‹c›
  · exact hy ‹¬ c›

theorem below_andThen {x : Rd (Option α)} {f : α → Rd (Option β)} (hx : Below limit x)
    (hf : ∀ a, x.val = some a → Below limit (f a)) : Below limit (x.andThen f) := by
  refine below_bind hx ?_
  cases hval : x.val with
  | none => exact below_pure _
  | some a => exact hf a hval

theorem below_u8 (h : off < limit) : Below limit (u8 mem off) := by
  intro o ho
  obtain rfl := List.mem_singleton.mp ho
  exact h

theorem below_bytes {len : Nat} (h : off + len ≤ limit) : Below limit (bytes mem off len) := by
  intro o ho
  obtain ⟨i, hi, rfl⟩ := List.mem_map.mp ho
  have hlt : i < len := List.mem_range.mp hi
  omega

theorem below_u16 (h : off + 2 ≤ limit) : Below limit (u16 mem off) :=
  below_bind (below_u8 (by omega)) (below_bind (below_u8 (by omega)) (below_pure _))

theorem below_be16 (h : off + 2 ≤ limit) : Below limit (be16 mem off) :=
  below_bind (below_u8 (by omega)) (below_bind (below_u8 (by omega)) (below_pure _))

theorem below_be32 (h : off + 4 ≤ limit) : Below limit (be32 mem off) :=
  below_bind (below_be16 (by omega)) (below_bind (below_be16 (by omega)) (below_pure _))

end Rd
