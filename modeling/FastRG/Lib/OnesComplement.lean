/-
The internet checksum.

The sixteen-bit words of a message, high byte first and a last odd byte filled up, are added and the
carries added back in until sixteen bits are left; a message that carries its checksum gives all
ones.  All ones and not zero: the two are the same number modulo 65535, and only a message of zeros
gives the other.

A little-endian machine adds the bytes of each word the other way round.  That multiplies the sum by
256 modulo 65535, which changes nothing about the check, and the lemmas here are about that sum.
-/
import FastRG.Lib.Octets

namespace Octets

/-! ### Carries -/

/-- Carries are added back in until there are none. -/
def foldCarry (n : Nat) : Nat :=
  if n < 65536 then n else foldCarry (n % 65536 + n / 65536)
termination_by n
decreasing_by omega

/-- All ones are what a multiple of 65535 folds to, except zero. -/
theorem foldCarry_eq_ones (n : Nat) : foldCarry n = 65535 ↔ 0 < n ∧ n % 65535 = 0 := by
  induction n using foldCarry.induct with
  | case1 n hlt =>
      rw [foldCarry, if_pos hlt]
      omega
  | case2 n hge ih =>
      rw [foldCarry, if_neg hge, ih]
      omega

theorem foldCarry_mod (n : Nat) : foldCarry n % 65535 = n % 65535 := by
  induction n using foldCarry.induct with
  | case1 n hlt => rw [foldCarry, if_pos hlt]
  | case2 n hge ih =>
      rw [foldCarry, if_neg hge, ih]
      omega

theorem foldCarry_lt (n : Nat) : foldCarry n < 65536 := by
  induction n using foldCarry.induct with
  | case1 n hlt =>
      rw [foldCarry, if_pos hlt]
      exact hlt
  | case2 n hge ih =>
      rw [foldCarry, if_neg hge]
      exact ih

/-- What is missing to all ones makes the sum all ones. -/
theorem foldCarry_complement (n : Nat) : foldCarry (n + (65535 - foldCarry n)) = 65535 := by
  have hmod := foldCarry_mod n
  have hlt := foldCarry_lt n
  have hones := foldCarry_eq_ones n
  rw [foldCarry_eq_ones]
  omega

/-! ### Sums -/

/-- The sum of the `len` bytes from `off`, two at a time, each pair read by `word`. -/
def wordSum (word : Nat → Nat → Nat) (m : Octets) : Nat → Nat → Nat
  | _, 0 => 0
  | off, 1 => word (m off).toNat 0
  | off, len + 2 => word (m off).toNat (m (off + 1)).toNat + wordSum word m (off + 2) len

def netWord (first second : Nat) : Nat := 256 * first + second

def hostWord (first second : Nat) : Nat := first + 256 * second

/-- The sum in words of network order. -/
def netSum (m : Octets) (off len : Nat) : Nat := wordSum netWord m off len

/-- The sum in the words a little-endian machine loads. -/
def hostSum (m : Octets) (off len : Nat) : Nat := wordSum hostWord m off len

/-- The check of a message: the sum is all ones. -/
def Verifies (m : Octets) (off len : Nat) : Prop := foldCarry (netSum m off len) = 65535

instance (m : Octets) (off len : Nat) : Decidable (Verifies m off len) :=
  decidable_of_iff _ (foldCarry_eq_ones (netSum m off len)).symm

variable {m m' : Octets} {off len i k : Nat} {word : Nat → Nat → Nat}

/-- Swapping the bytes of every word multiplies by 256. -/
theorem netSum_swap (m : Octets) (off len : Nat) :
    ∃ k, 256 * hostSum m off len = netSum m off len + 65535 * k := by
  unfold hostSum netSum
  induction off, len using wordSum.induct with
  | case1 off => exact ⟨0, rfl⟩
  | case2 off =>
      refine ⟨0, ?_⟩
      rw [wordSum, wordSum, hostWord, netWord]
      omega
  | case3 off len ih =>
      obtain ⟨k, hk⟩ := ih
      refine ⟨k + (m (off + 1)).toNat, ?_⟩
      rw [wordSum, wordSum, hostWord, netWord]
      omega

/-- Both sums are zero for zeros only. -/
theorem netSum_pos_iff (m : Octets) (off len : Nat) :
    0 < netSum m off len ↔ 0 < hostSum m off len := by
  unfold hostSum netSum
  induction off, len using wordSum.induct with
  | case1 off => exact Iff.rfl
  | case2 off =>
      rw [wordSum, wordSum, hostWord, netWord]
      omega
  | case3 off len ih =>
      rw [wordSum, wordSum, hostWord, netWord]
      omega

/-- The check in the machine's own words: not zero, and zero modulo 65535. -/
theorem verifies_iff : Verifies m off len ↔ 0 < hostSum m off len ∧ hostSum m off len % 65535 = 0 := by
  unfold Verifies
  obtain ⟨k, hk⟩ := netSum_swap m off len
  rw [foldCarry_eq_ones, netSum_pos_iff]
  omega

/-! ### What a store does to the sum -/

theorem wordSum_congr (h : ∀ j, off ≤ j → j < off + len → m' j = m j) :
    wordSum word m' off len = wordSum word m off len := by
  induction off, len using wordSum.induct with
  | case1 off => rfl
  | case2 off =>
      rw [wordSum, wordSum, h off (by omega) (by omega)]
  | case3 off len ih =>
      rw [wordSum, wordSum, ih fun j hle hlt => h j (by omega) (by omega),
        h _ (by omega) (by omega), h _ (by omega) (by omega)]

theorem netSum_congr (h : ∀ j, off ≤ j → j < off + len → m' j = m j) :
    netSum m' off len = netSum m off len :=
  wordSum_congr h

theorem Verifies.congr (hm : Verifies m off len) (h : ∀ j, off ≤ j → j < off + len → m' j = m j) :
    Verifies m' off len := by
  unfold Verifies at hm ⊢
  rw [netSum_congr h]
  exact hm

/-- Where only the word `2 * k` bytes in differs, so do the sums. -/
theorem wordSum_word (h : ∀ j, off ≤ j → j < off + len → j ≠ off + 2 * k → j ≠ off + 2 * k + 1 →
      m' j = m j) (hk : 2 * k + 2 ≤ len) :
    wordSum word m' off len + word (m (off + 2 * k)).toNat (m (off + 2 * k + 1)).toNat =
      wordSum word m off len + word (m' (off + 2 * k)).toNat (m' (off + 2 * k + 1)).toNat := by
  induction k generalizing off len with
  | zero =>
      obtain ⟨rest, rfl⟩ := Nat.exists_eq_add_of_le' hk
      have hrest : wordSum word m' (off + 2) rest = wordSum word m (off + 2) rest :=
        wordSum_congr fun j hle hlt => h j (by omega) (by omega) (by omega) (by omega)
      rw [wordSum, wordSum, hrest]
      simp only [Nat.mul_zero, Nat.add_zero]
      omega
  | succ k ih =>
      obtain ⟨rest, rfl⟩ := Nat.exists_eq_add_of_le' (show 2 ≤ len by omega)
      have hfirst : m' off = m off := h _ (by omega) (by omega) (by omega) (by omega)
      have hsecond : m' (off + 1) = m (off + 1) := h _ (by omega) (by omega) (by omega) (by omega)
      have hoff : off + 2 * (k + 1) = off + 2 + 2 * k := by omega
      have hrest : wordSum word m' (off + 2) rest +
            word (m (off + 2 + 2 * k)).toNat (m (off + 2 + 2 * k + 1)).toNat =
          wordSum word m (off + 2) rest +
            word (m' (off + 2 + 2 * k)).toNat (m' (off + 2 + 2 * k + 1)).toNat :=
        ih (fun j hle hlt hne hne' => h j (by omega) (by omega) (by omega) (by omega)) (by omega)
      rw [wordSum, wordSum, hfirst, hsecond, hoff]
      omega

theorem hostSum_word (h : ∀ j, off ≤ j → j < off + len → j ≠ off + 2 * k → j ≠ off + 2 * k + 1 →
      m' j = m j) (hk : 2 * k + 2 ≤ len) :
    hostSum m' off len + (m.le16 (off + 2 * k)).toNat =
      hostSum m off len + (m'.le16 (off + 2 * k)).toNat := by
  rw [toNat_le16, toNat_le16]
  exact wordSum_word h hk

theorem netSum_word (h : ∀ j, off ≤ j → j < off + len → j ≠ off + 2 * k → j ≠ off + 2 * k + 1 →
      m' j = m j) (hk : 2 * k + 2 ≤ len) :
    netSum m' off len + (m.be16 (off + 2 * k)).toNat =
      netSum m off len + (m'.be16 (off + 2 * k)).toNat := by
  rw [toNat_be16, toNat_be16]
  exact wordSum_word h hk

/-- Only zeros add up to zero. -/
theorem hostSum_pos (h : i < len) (hne : m (off + i) ≠ 0) : 0 < hostSum m off len := by
  have hpos : 0 < (m (off + i)).toNat := by
    refine Nat.pos_of_ne_zero fun hzero => hne ?_
    exact BitVec.eq_of_toNat_eq hzero
  unfold hostSum
  induction off, len using wordSum.induct generalizing i with
  | case1 off => omega
  | case2 off =>
      obtain rfl : i = 0 := by omega
      rw [wordSum, hostWord]
      exact hpos
  | case3 off len ih =>
      rw [wordSum, hostWord]
      rcases i with _ | _ | i
      · rw [Nat.add_zero] at hpos
        omega
      · rw [Nat.zero_add] at hpos
        omega
      · have hoff : off + (i + 1 + 1) = off + 2 + i := by omega
        rw [hoff] at hne hpos
        have hrest := ih (by omega) hne hpos
        omega

theorem hostSum_zeros (h : ∀ j, off ≤ j → j < off + len → m j = 0) : hostSum m off len = 0 := by
  unfold hostSum
  rw [wordSum_congr (m := fun _ => 0) h]
  clear h
  induction off, len using wordSum.induct with
  | case1 off => rfl
  | case2 off => rfl
  | case3 off len ih =>
      rw [wordSum, ih]
      rfl

theorem hostSum_pos_of_word (hk : 2 * k + 2 ≤ len) (h : 0 < (m.le16 (off + 2 * k)).toNat) :
    0 < hostSum m off len := by
  rw [toNat_le16] at h
  by_cases hlow : m (off + 2 * k) = 0
  · refine hostSum_pos (i := 2 * k + 1) (by omega) ?_
    intro hhigh
    rw [← Nat.add_assoc] at hhigh
    rw [hlow, hhigh] at h
    exact absurd h (by decide)
  · exact hostSum_pos (by omega) hlow

/-- Where only two words differ, so do the sums. -/
theorem hostSum_words {l : Nat} (h : ∀ j, off ≤ j → j < off + len → j ≠ off + 2 * k →
      j ≠ off + 2 * k + 1 → j ≠ off + 2 * l → j ≠ off + 2 * l + 1 → m' j = m j)
    (hkl : k < l) (hl : 2 * l + 2 ≤ len) :
    hostSum m' off len + ((m.le16 (off + 2 * k)).toNat + (m.le16 (off + 2 * l)).toNat) =
      hostSum m off len + ((m'.le16 (off + 2 * k)).toNat + (m'.le16 (off + 2 * l)).toNat) := by
  -- one word at a time
  let between := m.put16 (off + 2 * k) (m'.le16 (off + 2 * k))
  have hfirst : hostSum between off len + (m.le16 (off + 2 * k)).toNat =
      hostSum m off len + (between.le16 (off + 2 * k)).toNat :=
    hostSum_word (fun j _ _ hne hne' => put16_of_ne _ (by omega)) (by omega)
  have hsecond : hostSum m' off len + (between.le16 (off + 2 * l)).toNat =
      hostSum between off len + (m'.le16 (off + 2 * l)).toNat := by
    refine hostSum_word (fun j hle hlt hne hne' => ?_) hl
    by_cases hin : j = off + 2 * k ∨ j = off + 2 * k + 1
    · have hword : between.le16 (off + 2 * k) = m'.le16 (off + 2 * k) := le16_put16 m _ _
      obtain ⟨hlow, hhigh⟩ := le16_inj hword
      rcases hin with rfl | rfl
      · exact hlow.symm
      · exact hhigh.symm
    · rw [h j hle hlt (by omega) (by omega) hne hne']
      exact (put16_of_ne _ (by omega)).symm
  have hword : between.le16 (off + 2 * k) = m'.le16 (off + 2 * k) := le16_put16 m _ _
  have hother : between.le16 (off + 2 * l) = m.le16 (off + 2 * l) :=
    le16_put16_of_ne _ (by omega)
  rw [hword] at hfirst
  rw [hother] at hsecond
  omega

/-- Two words are replaced by two of the same sum modulo 65535, and by zeros only if they were. -/
theorem Verifies.words {l : Nat} (hm : Verifies m off len)
    (h : ∀ j, off ≤ j → j < off + len → j ≠ off + 2 * k →
      j ≠ off + 2 * k + 1 → j ≠ off + 2 * l → j ≠ off + 2 * l + 1 → m' j = m j)
    (hkl : k < l) (hl : 2 * l + 2 ≤ len)
    (hmod : ((m'.le16 (off + 2 * k)).toNat + (m'.le16 (off + 2 * l)).toNat) % 65535 =
      ((m.le16 (off + 2 * k)).toNat + (m.le16 (off + 2 * l)).toNat) % 65535)
    (hpos : 0 < (m.le16 (off + 2 * k)).toNat + (m.le16 (off + 2 * l)).toNat →
      0 < (m'.le16 (off + 2 * k)).toNat + (m'.le16 (off + 2 * l)).toNat) :
    Verifies m' off len := by
  obtain ⟨hsum, hzero⟩ := verifies_iff.mp hm
  have hwords := hostSum_words h hkl hl
  refine verifies_iff.mpr ⟨?_, by omega⟩
  by_cases hold : 0 < (m.le16 (off + 2 * k)).toNat + (m.le16 (off + 2 * l)).toNat
  · rcases Nat.add_pos_iff_pos_or_pos.mp (hpos hold) with hk | hl'
    · exact hostSum_pos_of_word (by omega) hk
    · exact hostSum_pos_of_word hl hl'
  · omega

end Octets
