/-
Ranges of words under a mask.

Two words agree under a mask when they have the same bits wherever the mask has one.
That the two ends of a range agree says nothing about what lies between them: counting
from one end to the other runs through every value of the bits below the highest one in
which the ends differ.  The words between agree with the ends exactly when the mask has
no bit there.
-/
import Mathlib.Data.Nat.Bitwise
import Mathlib.Tactic.Common

namespace MaskedRange

/-! ### Shared high parts -/

/-- Two numbers differ only below a bit when they have the same part from there on. -/
theorem xor_lt_two_pow_iff (a b j : Nat) : a ^^^ b < 2 ^ j ↔ a / 2 ^ j = b / 2 ^ j := by
  rw [← Nat.div_eq_zero_iff_lt (Nat.two_pow_pos j), ← Nat.shiftRight_eq_div_pow,
    ← Nat.shiftRight_eq_div_pow, ← Nat.shiftRight_eq_div_pow, Nat.shiftRight_xor_distrib]
  exact Nat.xor_eq_zero_iff

/-- What lies between two numbers has the high part that they share. -/
theorem div_eq_of_between {a b x d : Nat} (hab : a / d = b / d) (hax : a ≤ x) (hxb : x ≤ b) :
    x / d = a / d := by
  have hlow : a / d ≤ x / d := Nat.div_le_div_right hax
  have hhigh : x / d ≤ b / d := Nat.div_le_div_right hxb
  omega

/-- One bit of a number, by its high part. -/
theorem testBit_eq_of_div_eq {a x j : Nat} (h : x / 2 ^ j = a / 2 ^ j) :
    x.testBit j = a.testBit j := by
  rw [Nat.testBit_eq_decide_div_mod_eq, Nat.testBit_eq_decide_div_mod_eq, h]

/-- A step of one unit at a bit changes that bit. -/
theorem testBit_add_two_pow_ne (a j : Nat) : (a + 2 ^ j).testBit j ≠ a.testBit j := by
  rw [Nat.testBit_eq_decide_div_mod_eq, Nat.testBit_eq_decide_div_mod_eq,
    Nat.add_div_right _ (Nat.two_pow_pos j)]
  intro h
  have hiff : ((a / 2 ^ j).succ % 2 = 1) ↔ (a / 2 ^ j % 2 = 1) := decide_eq_decide.mp h
  omega

/-- Ends of a range with the same bit, but not the same part from that bit on, are more
than one unit apart. -/
theorem add_two_pow_le {a b j : Nat} (hle : a ≤ b) (hbit : a.testBit j = b.testBit j)
    (hne : a / 2 ^ j ≠ b / 2 ^ j) : a + 2 ^ j ≤ b := by
  have hdiv : a / 2 ^ j ≤ b / 2 ^ j := Nat.div_le_div_right hle
  rw [Nat.testBit_eq_decide_div_mod_eq, Nat.testBit_eq_decide_div_mod_eq] at hbit
  have hiff : (a / 2 ^ j % 2 = 1) ↔ (b / 2 ^ j % 2 = 1) := decide_eq_decide.mp hbit
  have hstep : a / 2 ^ j + 2 ≤ b / 2 ^ j := by omega
  have hb : 2 ^ j * (b / 2 ^ j) ≤ b := Nat.mul_div_le b (2 ^ j)
  have ha : a < 2 ^ j * (a / 2 ^ j) + 2 ^ j := Nat.lt_mul_div_succ a (Nat.two_pow_pos j)
  have hmul : 2 ^ j * (a / 2 ^ j + 2) ≤ 2 ^ j * (b / 2 ^ j) := Nat.mul_le_mul_left _ hstep
  rw [Nat.mul_add] at hmul
  omega

/-! ### Words -/

variable {w : Nat} {a b m x : BitVec w}

/-- Two words agree under a mask when they have the same bits where the mask has one. -/
theorem and_eq_and_iff : x &&& m = a &&& m ↔
    ∀ j, m.getLsbD j = true → x.getLsbD j = a.getLsbD j := by
  refine ⟨fun h j hj => ?_, fun h => ?_⟩
  · have hbit := congrArg (BitVec.getLsbD · j) h
    simpa only [BitVec.getLsbD_and, hj, Bool.and_true] using hbit
  · apply BitVec.eq_of_getLsbD_eq
    intro j _
    rw [BitVec.getLsbD_and, BitVec.getLsbD_and]
    by_cases hj : m.getLsbD j = true
    · rw [h j hj]
    · simp [hj]

/-- The mask has no bit at or below the highest one in which the ends of a range differ. -/
def Spares (m a b : BitVec w) : Prop := ∀ j, m.getLsbD j = true → (a ^^^ b).toNat < 2 ^ j

/-- Then all words of the range agree under it. -/
theorem Spares.and_eq (h : Spares m a b) (hax : a ≤ x) (hxb : x ≤ b) : x &&& m = a &&& m := by
  rw [and_eq_and_iff]
  intro j hj
  have hlt := h j hj
  rw [BitVec.toNat_xor, xor_lt_two_pow_iff] at hlt
  have hdiv := div_eq_of_between hlt (BitVec.le_def.mp hax) (BitVec.le_def.mp hxb)
  exact testBit_eq_of_div_eq hdiv

/--
**The inside of a masked range.**  When the ends of a range agree under a mask, all words
between them do exactly when the mask has no bit at or below the highest bit in which the
ends differ.
-/
theorem forall_and_eq_iff (hle : a ≤ b) (hends : a &&& m = b &&& m) :
    (∀ x, a ≤ x → x ≤ b → x &&& m = a &&& m) ↔ Spares m a b := by
  refine ⟨fun hall j hj => ?_, fun h x hax hxb => h.and_eq hax hxb⟩
  rw [BitVec.toNat_xor, xor_lt_two_pow_iff]
  by_contra hne
  -- one unit at that bit further, the range still goes on
  have hbit := and_eq_and_iff.mp hends j hj
  have hroom := add_two_pow_le (BitVec.le_def.mp hle) hbit hne
  have hw : a.toNat + 2 ^ j < 2 ^ w := Nat.lt_of_le_of_lt hroom b.isLt
  have hx : (BitVec.ofNat w (a.toNat + 2 ^ j)).toNat = a.toNat + 2 ^ j := by
    rw [BitVec.toNat_ofNat, Nat.mod_eq_of_lt hw]
  have hpos : 0 < 2 ^ j := Nat.two_pow_pos j
  have hagree := hall (BitVec.ofNat w (a.toNat + 2 ^ j))
    (BitVec.le_def.mpr (by omega)) (BitVec.le_def.mpr (by omega))
  have hsame := and_eq_and_iff.mp hagree j hj
  unfold BitVec.getLsbD at hsame
  rw [hx] at hsame
  exact testBit_add_two_pow_ne a.toNat j hsame

end MaskedRange
