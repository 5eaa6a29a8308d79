/-
What objects take in pages, and what each of them is charged for it.

Objects of one size are packed into pages: as many to a page as fit, none across a boundary, the
last page cut behind its last object.  An object that is larger than a page has whole pages to
itself.  Where there are no pages the objects lie one behind the other.

A charge is what a number of objects costs ahead of time: each its share of a page, rounded up once.
Several charges are never less than what their objects take together.
-/
import Mathlib.Tactic.Ring

namespace Paging

variable {page size : Nat}

/-- What `count` objects of `size` bytes take, `0 < count`. -/
def taken (page size count : Nat) : Nat :=
  if page = 0 then size * count
  else if page / size = 0 then (size + page - 1) / page * page * count
  else
    let last := (count - 1) % (page / size) + 1
    last * size + (count - last) / (page / size) * page

/-- What `count` objects of `size` bytes are charged. -/
def charged (page size count : Nat) : Nat :=
  if page = 0 then size * count
  else if page / size = 0 then (size + page - 1) / page * page * count
  else (count * page + page / size - 1) / (page / size)

theorem charged_none (page size : Nat) : charged page size 0 = 0 := by
  unfold charged
  by_cases hpage : page = 0
  · rw [if_pos hpage, Nat.mul_zero]
  by_cases hper : page / size = 0
  · rw [if_neg hpage, if_pos hper, Nat.mul_zero]
  · rw [if_neg hpage, if_neg hper, Nat.zero_mul, Nat.zero_add]
    exact Nat.div_eq_of_lt (Nat.sub_lt (Nat.pos_of_ne_zero hper) Nat.one_pos)

theorem charged_zero (page count : Nat) : charged page 0 count = 0 := by
  unfold charged
  by_cases hpage : page = 0
  · rw [if_pos hpage, Nat.zero_mul]
  · rw [if_neg hpage, if_pos (Nat.div_zero page), Nat.zero_add,
      Nat.div_eq_of_lt (show page - 1 < page by omega), Nat.zero_mul, Nat.zero_mul]

/-- A quotient that is rounded up is enough. -/
theorem le_mul_ceil {a b : Nat} (hb : 0 < b) : a ≤ b * ((a + b - 1) / b) := by
  have hmod := Nat.div_add_mod (a + b - 1) b
  have hlt := Nat.mod_lt (a + b - 1) hb
  omega

/-- A charge is at most an object and a page for each object. -/
theorem charged_le (page size count : Nat) : charged page size count ≤ count * (size + page) := by
  rcases Nat.eq_zero_or_pos count with rfl | hcount
  · rw [charged_none]
    exact Nat.zero_le _
  unfold charged
  by_cases hpage : page = 0
  · rw [if_pos hpage, hpage, Nat.add_zero, Nat.mul_comm]
  by_cases hper : page / size = 0
  · rw [if_neg hpage, if_pos hper, Nat.mul_comm]
    refine Nat.mul_le_mul_left count (Nat.le_trans (Nat.div_mul_le_self _ _) ?_)
    omega
  · rw [if_neg hpage, if_neg hper]
    have hper' : 0 < page / size := Nat.pos_of_ne_zero hper
    have hpos : 0 < count * page := Nat.mul_pos hcount (Nat.pos_of_ne_zero hpage)
    have hceil : (count * page + page / size - 1) / (page / size) ≤ count * page := by
      refine Nat.div_le_of_le_mul ?_
      have hmul : (page / size - 1) * 1 ≤ (page / size - 1) * (count * page) :=
        Nat.mul_le_mul_left _ hpos
      have hsplit : page / size * (count * page) =
          (page / size - 1) * (count * page) + count * page := by
        rw [← Nat.succ_mul, Nat.succ_eq_add_one, Nat.sub_add_cancel hper']
      omega
    exact Nat.le_trans hceil (Nat.mul_le_mul_left count (Nat.le_add_left page size))

/-- The last page is cut, and the others are full. -/
theorem taken_packed {count : Nat} (hpage : page ≠ 0) (hper : page / size ≠ 0)
    (hcount : 0 < count) :
    ∃ full last, count = full * (page / size) + last ∧
      taken page size count = last * size + full * page := by
  have hper' : 0 < page / size := Nat.pos_of_ne_zero hper
  refine ⟨(count - 1) / (page / size), (count - 1) % (page / size) + 1, ?_, ?_⟩
  · have hdiv := Nat.div_add_mod (count - 1) (page / size)
    rw [Nat.mul_comm] at hdiv
    omega
  · have hrest : count - ((count - 1) % (page / size) + 1) =
        (page / size) * ((count - 1) / (page / size)) := by
      have hdiv := Nat.div_add_mod (count - 1) (page / size)
      omega
    unfold taken
    rw [if_neg hpage, if_neg hper]
    simp only
    rw [hrest, Nat.mul_div_cancel_left _ hper']

/-- A number of charges covers their objects together. -/
theorem taken_le_charged (page size : Nat) {n k : Nat} (hcount : 0 < n * k) :
    taken page size (n * k) ≤ n * charged page size k := by
  by_cases hpage : page = 0
  · unfold taken charged
    rw [if_pos hpage, if_pos hpage, Nat.mul_left_comm n size k]
  by_cases hper : page / size = 0
  · unfold taken charged
    rw [if_neg hpage, if_neg hpage, if_pos hper, if_pos hper, Nat.mul_left_comm n]
  have hper' : 0 < page / size := Nat.pos_of_ne_zero hper
  obtain ⟨full, last, hsplit, htaken⟩ := taken_packed hpage hper hcount
  have hcharged : charged page size k = (k * page + page / size - 1) / (page / size) := by
    unfold charged
    rw [if_neg hpage, if_neg hper]
  rw [htaken, hcharged]
  -- Both sides times the objects of a page, where nothing is rounded.
  refine Nat.le_of_mul_le_mul_left ?_ hper'
  have hfit : page / size * size ≤ page := Nat.div_mul_le_self page size
  calc page / size * (last * size + full * page)
      = last * (page / size * size) + full * (page / size) * page := by ring
    _ ≤ last * page + full * (page / size) * page := by
        exact Nat.add_le_add_right (Nat.mul_le_mul_left last hfit) _
    _ = n * (k * page) := by
        rw [← Nat.mul_assoc n, hsplit]
        ring
    _ ≤ n * (page / size * ((k * page + page / size - 1) / (page / size))) :=
        Nat.mul_le_mul_left n (le_mul_ceil hper')
    _ = page / size * (n * ((k * page + page / size - 1) / (page / size))) :=
        Nat.mul_left_comm ..

end Paging
