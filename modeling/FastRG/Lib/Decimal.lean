/-
Numbers written in decimal, as bytes.

`Decimal.write` is the numeral of a number, without leading zeros, and `Decimal.read` takes a
string of digits back to its number (`read_write`).
-/
import Mathlib.Tactic.Common

namespace Decimal

/-- The byte of a digit. -/
def digit (d : Nat) : BitVec 8 := BitVec.ofNat 8 (48 + d)

/-- The digits of a number in front of some text, in at most so many steps. -/
def writeFrom : Nat → Nat → List (BitVec 8) → List (BitVec 8)
  | 0, _, text => text
  | fuel + 1, n, text =>
      if n < 10 then digit n :: text else writeFrom fuel (n / 10) (digit (n % 10) :: text)

/-- The numeral of a number. -/
def write (n : Nat) : List (BitVec 8) := writeFrom (n + 1) n []

/-- The byte is a digit. -/
def isDigit (b : BitVec 8) : Bool := 48 ≤ b.toNat && b.toNat ≤ 57

/-- The number a string of digits stands for, after some digits already read. -/
def readFrom (acc : Nat) (text : List (BitVec 8)) : Nat :=
  text.foldl (fun acc b => acc * 10 + (b.toNat - 48)) acc

/-- The number a string of digits stands for. -/
def read (text : List (BitVec 8)) : Option Nat :=
  if text ≠ [] ∧ text.all isDigit then some (readFrom 0 text) else none

theorem toNat_digit {d : Nat} (h : d < 10) : (digit d).toNat = 48 + d := by
  unfold digit
  rw [BitVec.toNat_ofNat]
  omega

theorem isDigit_digit {d : Nat} (h : d < 10) : isDigit (digit d) = true := by
  unfold isDigit
  rw [toNat_digit h]
  simp only [Bool.and_eq_true, decide_eq_true_eq]
  omega

/-- What is written in front of a text is digits, and reads as the number before the text. -/
theorem writeFrom_spec (fuel n : Nat) (text : List (BitVec 8)) (h : n < fuel) :
    ∃ front, writeFrom fuel n text = front ++ text ∧ front ≠ [] ∧ front.all isDigit = true ∧
      readFrom 0 front = n := by
  induction fuel generalizing n text with
  | zero => omega
  | succ fuel ih =>
      unfold writeFrom
      by_cases hn : n < 10
      · refine ⟨[digit n], by rw [if_pos hn]; rfl, by simp, ?_, ?_⟩
        · simp [isDigit_digit hn]
        · simp only [readFrom, List.foldl_cons, List.foldl_nil, toNat_digit hn]
          omega
      · obtain ⟨front, hfront, hne, hdigits, hread⟩ :=
          ih (n / 10) (digit (n % 10) :: text) (by omega)
        have hmod : n % 10 < 10 := Nat.mod_lt n (by omega)
        refine ⟨front ++ [digit (n % 10)], ?_, by simp, ?_, ?_⟩
        · rw [if_neg hn, hfront, List.append_assoc]
          rfl
        · simp [hdigits, isDigit_digit hmod]
        · have hsplit : readFrom 0 (front ++ [digit (n % 10)]) =
              readFrom 0 front * 10 + ((digit (n % 10)).toNat - 48) := by
            simp [readFrom, List.foldl_append]
          rw [hsplit, hread, toNat_digit hmod]
          omega

/-- A numeral is a string of digits, and reads as its number. -/
theorem write_spec (n : Nat) :
    write n ≠ [] ∧ (write n).all isDigit = true ∧ readFrom 0 (write n) = n := by
  obtain ⟨front, hfront, hne, hdigits, hread⟩ := writeFrom_spec (n + 1) n [] (Nat.lt_succ_self n)
  rw [List.append_nil] at hfront
  unfold write
  rw [hfront]
  exact ⟨hne, hdigits, hread⟩

@[simp] theorem read_write (n : Nat) : read (write n) = some n := by
  obtain ⟨hne, hdigits, hread⟩ := write_spec n
  unfold read
  rw [if_pos ⟨hne, hdigits⟩, hread]

end Decimal
