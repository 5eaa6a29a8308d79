/-
Option lists, and walking them.

An option is a type byte, a length byte that counts both of these, and a value.  A list of
them is only bytes: it may break off inside an option, or an option may claim a length it
cannot have.  `Tlv.split` gives the options up to the place where the bytes stop making
sense, and whether there is such a place.

`Tlv.walk` is the loop a parser runs over such a list: it refuses at the first option its
check refuses, or at the end if the bytes did not make sense, and it has by then taken over
what the options before said.  `walk_eq` says both in closed form.
-/
import Mathlib.Tactic.Common

/-- One option. -/
structure Tlv where
  type : BitVec 8
  val : List (BitVec 8)
  deriving DecidableEq

namespace Tlv

/-- The option as it stands in the list. -/
def bytes (o : Tlv) : List (BitVec 8) := o.type :: BitVec.ofNat 8 (o.val.length + 2) :: o.val

/-- At most `n` options of a list, and whether the list ends with the last of them. -/
def splitN : Nat → List (BitVec 8) → List Tlv × Bool
  | _, [] => ([], true)
  | 0, _ :: _ => ([], false)
  | _ + 1, [_] => ([], false)
  | n + 1, ty :: len :: rest =>
      if len.toNat < 2 ∨ rest.length + 2 < len.toNat then ([], false)
      else
        let (os, wf) := splitN n (rest.drop (len.toNat - 2))
        (⟨ty, rest.take (len.toNat - 2)⟩ :: os, wf)

/-- The options of a list, as far as it is one, and whether all of it is. -/
def split (bs : List (BitVec 8)) : List Tlv × Bool := splitN bs.length bs

variable {σ τ : Type}

/-- The loop over a list of options: `ok` is the check made on each, `eff` what is taken over
from it, and `wf` whether the end of the list is reached. -/
def walk (ok : Tlv → Bool) (eff : Tlv → σ → σ) : List Tlv → Bool → σ → Bool × σ
  | [], wf, s => (wf, s)
  | o :: os, wf, s => if ok o then walk ok eff os wf (eff o s) else (false, s)

/-- How far a walk gets, and what it leaves. -/
theorem walk_eq (ok : Tlv → Bool) (eff : Tlv → σ → σ) (os : List Tlv) (wf : Bool) (s : σ) :
    walk ok eff os wf s = (os.all ok && wf, (os.takeWhile ok).foldl (fun s o => eff o s) s) := by
  induction os generalizing s with
  | nil => simp [walk]
  | cons o os ih => by_cases ho : ok o <;> simp [walk, ho, ih]

/-- What every option a walk takes over keeps, the walk keeps. -/
theorem walk_inv {ok : Tlv → Bool} {eff : Tlv → σ → σ} {os : List Tlv} {wf : Bool} {s : σ}
    (I : σ → Prop) (hstep : ∀ o ∈ os.takeWhile ok, ∀ s, I s → I (eff o s)) (hs : I s) :
    I (walk ok eff os wf s).2 := by
  rw [walk_eq]
  show I ((os.takeWhile ok).foldl (fun s o => eff o s) s)
  generalize os.takeWhile ok = l at hstep
  induction l generalizing s with
  | nil => exact hs
  | cons o l ih =>
      exact ih (hstep o List.mem_cons_self s hs)
        fun o' ho' => hstep o' (List.mem_cons_of_mem o ho')

/-- Where a list begins with an option that makes sense, that option is what it begins with. -/
theorem bytes_take {ty len : BitVec 8} {rest : List (BitVec 8)}
    (h : ¬ (len.toNat < 2 ∨ rest.length + 2 < len.toNat)) :
    bytes ⟨ty, rest.take (len.toNat - 2)⟩ ++ rest.drop (len.toNat - 2) = ty :: len :: rest := by
  have hval : (rest.take (len.toNat - 2)).length + 2 = len.toNat := by
    rw [List.length_take]
    omega
  have hbyte : BitVec.ofNat 8 len.toNat = len := by simp
  unfold bytes
  rw [hval, hbyte, List.cons_append, List.cons_append, List.take_append_drop]

/-- A list that makes sense to its end is its options one after the other. -/
theorem splitN_bytes (n : Nat) (bs : List (BitVec 8)) (h : (splitN n bs).2 = true) :
    (splitN n bs).1.flatMap bytes = bs := by
  induction n generalizing bs with
  | zero =>
      cases bs with
      | nil => rfl
      | cons b rest => exact absurd h Bool.false_ne_true
  | succ n ih =>
      match bs with
      | [] => rfl
      | [b] => exact absurd h Bool.false_ne_true
      | ty :: len :: rest =>
          unfold splitN at h ⊢
          by_cases hlen : len.toNat < 2 ∨ rest.length + 2 < len.toNat
          · rw [if_pos hlen] at h
            exact absurd h Bool.false_ne_true
          · rw [if_neg hlen] at h ⊢
            show bytes ⟨ty, rest.take (len.toNat - 2)⟩ ++ List.flatMap bytes _ = _
            rw [ih _ h]
            exact bytes_take hlen

theorem split_bytes {bs : List (BitVec 8)} (h : (split bs).2 = true) :
    (split bs).1.flatMap bytes = bs :=
  splitN_bytes bs.length bs h

/-- A length byte counts what it can count. -/
theorem val_length_of_splitN (n : Nat) (bs : List (BitVec 8)) {o : Tlv} (h : o ∈ (splitN n bs).1) :
    o.val.length + 2 < 256 := by
  induction n generalizing bs with
  | zero => cases bs <;> exact absurd h List.not_mem_nil
  | succ n ih =>
      match bs with
      | [] => exact absurd h List.not_mem_nil
      | [b] => exact absurd h List.not_mem_nil
      | ty :: len :: rest =>
          unfold splitN at h
          by_cases hlen : len.toNat < 2 ∨ rest.length + 2 < len.toNat
          · rw [if_pos hlen] at h
            exact absurd h List.not_mem_nil
          · rw [if_neg hlen] at h
            rcases List.mem_cons.mp h with rfl | hmem
            · have hbyte := len.isLt
              rw [List.length_take]
              omega
            · exact ih _ hmem

/-- As many options as there are bytes are all there can be. -/
theorem splitN_enough (n : Nat) (bs : List (BitVec 8)) (h : bs.length ≤ n) :
    splitN n bs = split bs := by
  -- Two bounds that are both enough give the same.
  have hcongr : ∀ (n m : Nat) (bs : List (BitVec 8)), bs.length ≤ n → bs.length ≤ m →
      splitN n bs = splitN m bs := by
    intro n
    induction n with
    | zero =>
        intro m bs hn hm
        obtain rfl := List.length_eq_zero_iff.mp (Nat.le_zero.mp hn)
        cases m <;> rfl
    | succ n ih =>
        intro m bs hn hm
        match bs, m with
        | [], 0 => rfl
        | [], m + 1 => rfl
        | _ :: _, 0 => exact absurd hm (by simp)
        | [b], m + 1 => rfl
        | ty :: len :: rest, m + 1 =>
            unfold splitN
            simp only [List.length_cons] at hn hm
            rw [ih m (rest.drop (len.toNat - 2)) (by rw [List.length_drop]; omega)
              (by rw [List.length_drop]; omega)]
  exact hcongr n bs.length bs h (Nat.le_refl _)

/-- Options written one after the other are read back as they are. -/
theorem split_flatMap {os : List Tlv} (h : ∀ o ∈ os, o.val.length + 2 < 256) :
    split (os.flatMap bytes) = (os, true) := by
  suffices hn : ∀ n, (os.flatMap bytes).length ≤ n → splitN n (os.flatMap bytes) = (os, true) from
    hn _ (Nat.le_refl _)
  induction os with
  | nil =>
      intro n _
      unfold splitN
      cases n <;> rfl
  | cons o os ih =>
      intro n hn
      have ho : o.val.length + 2 < 256 := h o List.mem_cons_self
      have hbytes : (o :: os).flatMap bytes =
          o.type :: BitVec.ofNat 8 (o.val.length + 2) :: (o.val ++ os.flatMap bytes) := rfl
      have hlen : (BitVec.ofNat 8 (o.val.length + 2)).toNat = o.val.length + 2 := by
        rw [BitVec.toNat_ofNat, Nat.mod_eq_of_lt ho]
      rw [hbytes] at hn ⊢
      simp only [List.length_cons, List.length_append] at hn
      obtain ⟨n, rfl⟩ := Nat.exists_eq_add_of_le' (show 1 ≤ n by omega)
      unfold splitN
      rw [hlen, if_neg (by rw [List.length_append]; omega), Nat.add_sub_cancel, List.drop_left,
        List.take_left, ih (fun o' ho' => h o' (List.mem_cons_of_mem o ho')) n (by omega)]

end Tlv
