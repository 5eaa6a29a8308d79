/-
Tag lists, and copies of them that are cut off.

A tag is a type and a length of two bytes each, and a value.  `Tag.read` reads a list of them up to
the first tag of a type that ends the list, or as far as the bytes last.

A tag that is copied without its value leaves a gap: the bytes that stand there were written by
nobody.  `Tag.copy` is a copy with such gaps, and `of_copies_take` and `copies_take` say when the
first bytes of a list of copies are a list of tags again: exactly when the cut falls between two of
them, and no tag before it has a gap.
-/
import Mathlib.Tactic.Common

/-- One tag.  Its value is no longer than the length field can say. -/
structure Tag where
  type : BitVec 16
  val : List (BitVec 8)
  short : val.length < 0x10000
  deriving DecidableEq

namespace Tag

variable {t q : Tag}

/-- The two bytes of a field, in network order. -/
def field (x : BitVec 16) : List (BitVec 8) := [x.extractLsb' 8 8, x.extractLsb' 0 8]

def header (t : Tag) : List (BitVec 8) := field t.type ++ field (BitVec.ofNat 16 t.val.length)

/-- The tag as it stands in the list. -/
def bytes (t : Tag) : List (BitVec 8) := t.header ++ t.val

def size (t : Tag) : Nat := 4 + t.val.length

/-- At most `n` tags of a list, and the type of the tag that ended it.  Of that tag only the header
is read. -/
def readN (stops : BitVec 16 → Bool) : Nat → List (BitVec 8) → List Tag × Option (BitVec 16)
  | n + 1, t0 :: t1 :: l0 :: l1 :: rest =>
      if stops (t0 ++ t1) then ([], some (t0 ++ t1))
      else if rest.length < (l0 ++ l1).toNat then ([], none)
      else
        let r := readN stops n (rest.drop (l0 ++ l1).toNat)
        (⟨t0 ++ t1, rest.take (l0 ++ l1).toNat,
          Nat.lt_of_le_of_lt (List.length_take_le _ _) (l0 ++ l1).isLt⟩ :: r.1, r.2)
  | _, _ => ([], none)

/-- The tags of a list, up to the one that ends it. -/
def read (stops : BitVec 16 → Bool) (bs : List (BitVec 8)) : List Tag × Option (BitVec 16) :=
  readN stops bs.length bs

/-! ### Headers -/

theorem field_append (a b : BitVec 8) : field (a ++ b) = [a, b] := by
  unfold field
  rw [BitVec.extractLsb'_append_eq_left, BitVec.extractLsb'_append_eq_right]

theorem field_inj {x y : BitVec 16} (h : field x = field y) : x = y := by
  have key : ∀ x : BitVec 16, x.extractLsb' 8 8 ++ x.extractLsb' 0 8 = x := by
    intro x
    rw [BitVec.extractLsb'_append_extractLsb'_eq_extractLsb' (by omega)]
    simp
  have hcons : x.extractLsb' 8 8 = y.extractLsb' 8 8 ∧ x.extractLsb' 0 8 = y.extractLsb' 0 8 := by
    simpa [field] using h
  rw [← key x, hcons.1, hcons.2, key y]

@[simp] theorem length_header (t : Tag) : t.header.length = 4 := rfl

@[simp] theorem length_bytes (t : Tag) : t.bytes.length = t.size := by
  simp [bytes, size]

theorem header_inj (h : t.header = q.header) : t.type = q.type ∧ t.val.length = q.val.length := by
  obtain ⟨htype, hlen⟩ := List.append_inj h rfl
  refine ⟨field_inj htype, ?_⟩
  have hnat := congrArg BitVec.toNat (field_inj hlen)
  have ht := t.short
  have hq := q.short
  simp only [BitVec.toNat_ofNat] at hnat
  omega

/-! ### Copies -/

/-- A tag copied whole, or with a gap where its value would be. -/
def copy (solid : Tag → Bool) (t : Tag) : List (Option (BitVec 8)) :=
  t.header.map some ++ if solid t then t.val.map some else List.replicate t.val.length none

/-- The copies of a list of tags, one after another. -/
def copies (solid : Tag → Bool) (ts : List Tag) : List (Option (BitVec 8)) := ts.flatMap (copy solid)

/-- The bytes of a list of tags, all of them written. -/
def written (ts : List Tag) : List (Option (BitVec 8)) := (ts.flatMap bytes).map some

def sizes : List Tag → Nat
  | [] => 0
  | t :: ts => t.size + sizes ts

/-- A tag without a gap in its copy. -/
def Whole (solid : Tag → Bool) (t : Tag) : Prop := solid t = true ∨ t.val = []

variable {solid : Tag → Bool} {ts qs : List Tag}

@[simp] theorem length_copy (solid : Tag → Bool) (t : Tag) : (copy solid t).length = t.size := by
  unfold copy size
  split <;> simp

theorem sizes_cons (t : Tag) (ts : List Tag) : sizes (t :: ts) = t.size + sizes ts := rfl

theorem size_le_sizes (h : t ∈ ts) : t.size ≤ sizes ts := by
  induction ts with
  | nil => exact absurd h List.not_mem_nil
  | cons q ts ih =>
      rw [sizes_cons]
      rcases List.mem_cons.mp h with rfl | h
      · omega
      · have := ih h
        omega

@[simp] theorem length_copies (solid : Tag → Bool) (ts : List Tag) :
    (copies solid ts).length = sizes ts := by
  induction ts with
  | nil => rfl
  | cons t ts ih =>
      have hcons : copies solid (t :: ts) = copy solid t ++ copies solid ts := rfl
      rw [hcons, List.length_append, length_copy, ih, sizes_cons]

theorem copy_of_whole (h : Whole solid t) : copy solid t = t.bytes.map some := by
  unfold copy bytes
  rcases h with h | h
  · rw [if_pos h, List.map_append]
  · rw [h]
    split <;> simp

theorem map_some_inj {l l' : List (BitVec 8)} (h : l.map some = l'.map some) : l = l' :=
  (List.map_inj_right fun _ _ h => Option.some.inj h).mp h

/-- A copy that is the bytes of a tag is that tag's, and has no gap. -/
theorem of_copy_eq (h : copy solid t = q.bytes.map some) : t = q ∧ Whole solid t := by
  unfold copy bytes at h
  rw [List.map_append] at h
  obtain ⟨hhead, hval⟩ := List.append_inj h (by simp)
  have hheader : t.header = q.header := map_some_inj hhead
  obtain ⟨htype, hlen⟩ := header_inj hheader
  have hwhole : t.val = q.val ∧ Whole solid t := by
    by_cases hs : solid t = true
    · rw [if_pos hs] at hval
      exact ⟨map_some_inj hval, Or.inl hs⟩
    · rw [if_neg hs] at hval
      cases hv : q.val with
      | nil =>
          rw [hv] at hlen
          exact ⟨List.eq_nil_of_length_eq_zero hlen, Or.inr (List.eq_nil_of_length_eq_zero hlen)⟩
      | cons b rest =>
          -- the gap would have to be a byte
          rw [hv] at hval hlen
          rw [hlen] at hval
          simp [List.replicate_succ] at hval
  refine ⟨?_, hwhole.2⟩
  cases t
  cases q
  simp only at htype hwhole
  simp [htype, hwhole.1]

theorem copies_of_whole (h : ∀ t ∈ ts, Whole solid t) : copies solid ts = written ts := by
  induction ts with
  | nil => rfl
  | cons t ts ih =>
      have hrest : copies solid ts = written ts := ih fun q hq => h q (List.mem_cons_of_mem t hq)
      have hcons : copies solid (t :: ts) = copy solid t ++ copies solid ts := rfl
      rw [hcons, hrest, copy_of_whole (h t List.mem_cons_self)]
      simp [written]

/-- The first bytes of a list of copies are a list of tags only if the cut falls between two of
them, and no tag before it has a gap. -/
theorem of_copies_take (hn : sizes qs ≤ sizes ts)
    (h : (copies solid ts).take (sizes qs) = written qs) :
    (∃ back, ts = qs ++ back) ∧ ∀ t ∈ qs, Whole solid t := by
  induction qs generalizing ts with
  | nil => exact ⟨⟨ts, rfl⟩, fun t ht => absurd ht List.not_mem_nil⟩
  | cons q qs ih =>
      cases ts with
      | nil =>
          rw [sizes_cons, size] at hn
          simp [sizes] at hn
      | cons t ts =>
          have hcopies : copies solid (t :: ts) = copy solid t ++ copies solid ts := rfl
          have hwritten : written (q :: qs) = q.bytes.map some ++ written qs := by
            simp [written]
          rw [hcopies, hwritten, sizes_cons] at h
          -- the headers come first, and tell the sizes
          have hheader : t.header = q.header := by
            have hfour := congrArg (List.take 4) h
            rw [List.take_take, show min 4 (q.size + sizes qs) = 4 by unfold size; omega] at hfour
            exact map_some_inj hfour
          have hsize : t.size = q.size := by
            unfold size
            rw [(header_inj hheader).2]
          rw [← hsize, ← length_copy solid t, List.take_length_add_append] at h
          obtain ⟨hcopy, hrest⟩ := List.append_inj h (by simp [hsize])
          obtain ⟨rfl, hwhole⟩ := of_copy_eq hcopy
          rw [sizes_cons, sizes_cons] at hn
          obtain ⟨⟨back, hback⟩, hall⟩ := ih (by omega) hrest
          refine ⟨⟨back, by rw [hback]; rfl⟩, ?_⟩
          intro r hr
          rcases List.mem_cons.mp hr with rfl | hr
          · exact hwhole
          · exact hall r hr

/-- Where the cut falls between two tags, and no tag before it has a gap, they are what is left. -/
theorem copies_take {back : List Tag} (hall : ∀ t ∈ qs, Whole solid t) :
    (copies solid (qs ++ back)).take (sizes qs) = written qs := by
  have happ : copies solid (qs ++ back) = copies solid qs ++ copies solid back := by
    simp [copies]
  rw [happ, ← length_copies solid qs, List.take_left, copies_of_whole hall]

end Tag
