/-
What a name in a DNS message is, and what `dns_parse_name` makes of it.

A name is a walk: from label to label, and from a pointer to where it points, to a zero byte.
The parser follows the walk, and where it gives up a name (too many jumps, a text that is too
long, a byte that is missing) there is none.  What it does not see is a walk that ends where the
message ends: it takes the name to end there too.  `NameWalk` has both ends, and with either of
them the parser returns exactly the names that stand (`dnsParseNameRd_iff`).
-/
import FastRG.Proofs.DnsNames
import FastRG.Proofs.DnsReads

namespace FastRG

/-! ### Walks -/

/-- Bytes in memory. -/
def bytesFrom (mem : Nat → BitVec 8) (pos len : Nat) : List (BitVec 8) :=
  (List.range len).map fun i => mem (pos + i)

/-- Where the pointer at `pos` points. -/
def nameTarget (mem : Nat → BitVec 8) (pos : Nat) : Nat :=
  ((mem pos).toNat - 0xC0) * 256 + (mem (pos + 1)).toNat

/--
The walk from `pos`: whether it ends at a zero byte, how many pointers it follows, its labels, and
the bytes it takes where it starts, up to a zero byte or the first pointer.  It looks only at bytes
that are `seen`; without a zero byte it ends at `limit`.
-/
inductive NameWalk (mem : Nat → BitVec 8) (seen : Nat → Prop) (limit : Nat) :
    Bool → Nat → Nat → List (List (BitVec 8)) → Nat → Prop
  | root {pos : Nat} (hseen : seen pos) (hzero : (mem pos).toNat = 0) :
      NameWalk mem seen limit true pos 0 [] 1
  | off : NameWalk mem seen limit false limit 0 [] 0
  | label {closed : Bool} {pos jumps size : Nat} {labels : List (List (BitVec 8))}
      (hseen : ∀ i ≤ (mem pos).toNat, seen (pos + i)) (hpos : (mem pos).toNat ≠ 0)
      (hle : (mem pos).toNat ≤ dnsMaxLabelLen)
      (hrest : NameWalk mem seen limit closed (pos + 1 + (mem pos).toNat) jumps labels size) :
      NameWalk mem seen limit closed pos jumps (bytesFrom mem (pos + 1) (mem pos).toNat :: labels)
        (1 + (mem pos).toNat + size)
  | pointer {closed : Bool} {pos jumps size : Nat} {labels : List (List (BitVec 8))}
      (hseen : seen pos) (hlow : seen (pos + 1)) (hptr : 0xC0 ≤ (mem pos).toNat)
      (hin : seen (nameTarget mem pos))
      (hrest : NameWalk mem seen limit closed (nameTarget mem pos) jumps labels size) :
      NameWalk mem seen limit closed pos (jumps + 1) labels 2

section

variable {mem mem' : Nat → BitVec 8} {seen seen' : Nat → Prop} {limit limit' pos jumps size : Nat}
  {closed : Bool} {labels : List (List (BitVec 8))}

/-- A walk that starts at a byte that is seen, or at a zero byte, takes a byte at least. -/
theorem NameWalk.size_pos (h : NameWalk mem seen limit closed pos jumps labels size)
    (hpos : pos ≠ limit) : 0 < size := by
  cases h with
  | root => omega
  | off => exact absurd rfl hpos
  | label => omega
  | pointer => omega

/-- A walk depends only on the bytes that it looks at. -/
theorem NameWalk.transfer (h : NameWalk mem seen limit closed pos jumps labels size)
    (hclosed : closed = true) (hmem : ∀ i, seen i → mem' i = mem i)
    (hseen : ∀ i, seen i → seen' i) :
    NameWalk mem' seen' limit' closed pos jumps labels size := by
  induction h with
  | root hs hzero => exact .root (hseen _ hs) (by rw [hmem _ hs]; exact hzero)
  | off => exact absurd hclosed (by decide)
  | @label _ pos _ _ _ hs hpos hle _ ih =>
      have hlen : mem' pos = mem pos := hmem _ (hs 0 (Nat.zero_le _))
      have hbytes : bytesFrom mem (pos + 1) (mem pos).toNat =
          bytesFrom mem' (pos + 1) (mem' pos).toNat := by
        unfold bytesFrom
        rw [hlen]
        refine List.map_congr_left fun i hi => ?_
        have hlt := List.mem_range.mp hi
        rw [show pos + 1 + i = pos + (1 + i) by omega]
        exact (hmem _ (hs (1 + i) (by omega))).symm
      rw [hbytes, ← hlen]
      refine .label ?_ ?_ ?_ ?_
      · rw [hlen]
        exact fun i hi => hseen _ (hs i hi)
      · rw [hlen]
        exact hpos
      · rw [hlen]
        exact hle
      · rw [hlen]
        exact ih hclosed
  | @pointer _ pos _ _ _ hs hlow hptr hin _ ih =>
      have htarget : nameTarget mem' pos = nameTarget mem pos := by
        unfold nameTarget
        rw [hmem _ hs, hmem _ hlow]
      have hrest := ih hclosed
      rw [← htarget] at hin hrest
      refine .pointer (hseen _ hs) (hseen _ hlow) ?_ (hseen _ hin) hrest
      rw [hmem _ hs]
      exact hptr

/-- There is one walk from where a walk starts. -/
theorem NameWalk.unique {closed' : Bool} {jumps' size' : Nat} {labels' : List (List (BitVec 8))}
    (h : NameWalk mem seen limit closed pos jumps labels size)
    (h' : NameWalk mem seen limit closed' pos jumps' labels' size') (hlimit : ¬ seen limit) :
    closed = closed' ∧ jumps = jumps' ∧ labels = labels' ∧ size = size' := by
  induction h generalizing closed' jumps' labels' size' with
  | root hseen hzero =>
      cases h' with
      | root => exact ⟨rfl, rfl, rfl, rfl⟩
      | off => exact absurd hseen hlimit
      | label _ hpos => exact absurd hzero hpos
      | pointer _ _ hptr => omega
  | off =>
      generalize hat : limit = at' at h'
      cases h' with
      | root hseen => exact absurd (hat ▸ hseen) hlimit
      | off => exact ⟨rfl, rfl, rfl, rfl⟩
      | label hseen => exact absurd (hat ▸ hseen 0 (Nat.zero_le _)) hlimit
      | pointer hseen => exact absurd (hat ▸ hseen) hlimit
  | label hseen hpos hle _ ih =>
      cases h' with
      | root _ hzero => exact absurd hzero hpos
      | off => exact absurd (hseen 0 (Nat.zero_le _)) hlimit
      | label _ _ _ hrest =>
          obtain ⟨h1, h2, h3, h4⟩ := ih hrest
          exact ⟨h1, h2, by rw [h3], by rw [h4]⟩
      | pointer _ _ hptr =>
          have hmax : dnsMaxLabelLen = 63 := rfl
          omega
  | pointer hseen hlow hptr hin _ ih =>
      cases h' with
      | root _ hzero => omega
      | off => exact absurd hseen hlimit
      | label _ _ hle =>
          have hmax : dnsMaxLabelLen = 63 := rfl
          omega
      | pointer _ _ _ _ hrest =>
          obtain ⟨h1, h2, h3, -⟩ := ih hrest
          exact ⟨h1, by rw [h2], h3, rfl⟩

end

/-! ### Texts that fit -/

theorem dnsText_snoc {labels : List (List (BitVec 8))} (l : List (BitVec 8)) (h : labels ≠ []) :
    dnsText (labels ++ [l]) = dnsText labels ++ 0x2e :: l := by
  unfold dnsText
  induction labels with
  | nil => exact absurd rfl h
  | cons a rest ih =>
      cases rest with
      | nil => simp [List.intercalate_cons_cons]
      | cons b rest' =>
          have hrest := ih (List.cons_ne_nil b rest')
          rw [List.cons_append] at hrest
          rw [List.cons_append, List.cons_append, List.intercalate_cons_cons, hrest,
            List.intercalate_cons_cons]
          simp only [List.append_assoc]

theorem length_dnsText_append_le (a b : List (List (BitVec 8))) :
    (dnsText a).length ≤ (dnsText (a ++ b)).length := by
  induction b generalizing a with
  | nil => rw [List.append_nil]
  | cons l rest ih =>
      rw [show a ++ l :: rest = (a ++ [l]) ++ rest by simp]
      refine Nat.le_trans ?_ (ih (a ++ [l]))
      by_cases ha : a = []
      · rw [ha]
        exact Nat.zero_le _
      · rw [dnsText_snoc l ha, List.length_append]
        omega

/-- There is room for a label exactly if the text with it fits. -/
theorem dnsTextRoom_iff (nameMax : Nat) {labels : List (List (BitVec 8))} (l : List (BitVec 8))
    (hne : ∀ l ∈ labels, l ≠ []) :
    dnsTextRoom nameMax labels l.length = true ↔ (dnsText (labels ++ [l])).length < nameMax := by
  cases labels with
  | nil => simp [dnsTextRoom, dnsText]
  | cons a rest =>
      have ha : 0 < a.length := List.length_pos_iff.mpr (hne a List.mem_cons_self)
      have hout : 0 < (dnsText (a :: rest)).length := by
        have hle := length_dnsText_append_le [a] rest
        simp only [dnsText, List.intercalate_singleton, List.singleton_append] at hle ⊢
        omega
      rw [dnsText_snoc l (List.cons_ne_nil a rest), List.length_append, List.length_cons]
      unfold dnsTextRoom
      simp only [hout, if_true, Bool.and_eq_true, decide_eq_true_eq]
      omega

/-! ### The loop follows the walk -/

/-- A name stands at an offset: a walk with few enough jumps, and a text that fits. -/
def NameStands (pkt : List (BitVec 8)) (nameMax : Nat) (closed : Bool) (offset : Nat)
    (labels : List (List (BitVec 8))) (size : Nat) : Prop :=
  ∃ jumps ≤ dnsMaxJumps,
    NameWalk (byteAt pkt) (· < pkt.length) pkt.length closed offset jumps labels size ∧
      (dnsText labels).length < nameMax

section

variable {pkt : List (BitVec 8)} {offset nameMax : Nat}

/-- Where a walk goes on after the loop has come so far. -/
structure WalksOn (pkt : List (BitVec 8)) (offset nameMax pos consumed jumps : Nat)
    (labels : List (List (BitVec 8))) (name : DnsName) : Prop where
  walk : ∃ closed more rest size,
    NameWalk (byteAt pkt) (· < pkt.length) pkt.length closed pos more rest size ∧
      jumps + more ≤ dnsMaxJumps ∧ (dnsText (labels ++ rest)).length < nameMax ∧
      name = ⟨labels ++ rest, if jumps = 0 then pos - offset + size else consumed⟩

/-- The labels that the loop reads are those of the walk. -/
theorem take_eq_bytesFrom {pos len : Nat} (h : pos + len ≤ pkt.length) :
    (pkt.drop pos).take len = bytesFrom (byteAt pkt) pos len :=
  (val_bytes h).symm

/-- What the loop returns, the walk leads to. -/
theorem walksOn_of_dnsParseNameFrom {name : DnsName} (fuel pos consumed jumps : Nat)
    (labels : List (List (BitVec 8))) (hpos : pos ≤ pkt.length) (hoffset : jumps = 0 → offset ≤ pos)
    (hconsumed : jumps = 0 → consumed = pos - offset) (hjumps : jumps ≤ dnsMaxJumps)
    (hfits : NameFits nameMax labels)
    (h : dnsParseNameFrom pkt offset nameMax fuel pos consumed jumps labels = some name) :
    WalksOn pkt offset nameMax pos consumed jumps labels name := by
  induction fuel generalizing pos consumed jumps labels with
  | zero => exact absurd h (by simp [dnsParseNameFrom])
  | succ fuel ih =>
      unfold dnsParseNameFrom at h
      by_cases hend : pkt.length ≤ pos
      · -- The message ends here.
        rw [if_pos hend] at h
        obtain rfl : pos = pkt.length := Nat.le_antisymm hpos hend
        refine ⟨false, 0, [], 0, .off, hjumps, by simpa using hfits.short, ?_⟩
        rw [← Option.some.inj h, List.append_nil, Nat.add_zero]
        by_cases hj : jumps = 0
        · rw [if_pos hj, hconsumed hj]
        · rw [if_neg hj]
      rw [if_neg hend] at h
      have hseen : pos < pkt.length := Nat.lt_of_not_le hend
      simp only at h
      by_cases hzero : (pkt.getD pos 0).toNat = 0
      · rw [if_pos hzero] at h
        refine ⟨true, 0, [], 1, .root hseen hzero, hjumps, by simpa using hfits.short, ?_⟩
        rw [← Option.some.inj h, List.append_nil]
      rw [if_neg hzero] at h
      by_cases hptr : 0xC0 ≤ (pkt.getD pos 0).toNat
      · rw [if_pos hptr] at h
        split at h
        · exact absurd h (by simp)
        rename_i hlow
        split at h
        · exact absurd h (by simp)
        rename_i hin
        split at h
        · exact absurd h (by simp)
        rename_i hmore
        obtain ⟨closed, more, rest, size, hwalk, hfew, htext, hname⟩ :=
          (ih _ _ _ _ (by omega) (by omega) (by omega) (by omega) hfits h).walk
        refine ⟨closed, more + 1, rest, 2,
          .pointer hseen (Nat.lt_of_not_le hlow) hptr (Nat.lt_of_not_le hin) hwalk, by omega, htext,
          ?_⟩
        rw [hname, if_neg (by omega)]
      · rw [if_neg hptr] at h
        split at h
        · exact absurd h (by simp)
        rename_i hmax
        split at h
        · exact absurd h (by simp)
        rename_i hin
        split at h
        · exact absurd h (by simp)
        rename_i hroom
        rw [take_eq_bytesFrom (by omega)] at h
        have hlen : (bytesFrom (byteAt pkt) (pos + 1) (pkt.getD pos 0).toNat).length =
            (pkt.getD pos 0).toNat := by simp [bytesFrom]
        have hfits' : NameFits nameMax
            (labels ++ [bytesFrom (byteAt pkt) (pos + 1) (pkt.getD pos 0).toNat]) := by
          refine hfits.snoc (List.ne_nil_of_length_pos (by omega)) ?_
          rw [hlen]
          simpa using hroom
        obtain ⟨closed, more, rest, size, hwalk, hfew, htext, hname⟩ :=
          (ih _ _ _ _ (by omega) (by omega) (fun hj => if_pos hj) hjumps hfits' h).walk
        rw [List.append_assoc, List.singleton_append] at htext hname
        refine ⟨closed, more, _, 1 + (pkt.getD pos 0).toNat + size,
          .label (fun i hi => ?_) hzero (Nat.le_of_not_lt hmax) hwalk, hfew, htext, ?_⟩
        · have hi' : i ≤ (pkt.getD pos 0).toNat := hi
          show pos + i < pkt.length
          omega
        · rw [hname]
          by_cases hj : jumps = 0
          · have hle := hoffset hj
            rw [if_pos hj, if_pos hj]
            refine congrArg (DnsName.mk _) ?_
            omega
          · simp only [if_neg hj]
            rfl

/-- Where the walk leads, the loop gets to, with steps enough. -/
theorem dnsParseNameFrom_of_walk {closed : Bool} {pos more size : Nat}
    {rest : List (List (BitVec 8))}
    (hwalk : NameWalk (byteAt pkt) (· < pkt.length) pkt.length closed pos more rest size)
    (fuel consumed jumps : Nat) (labels : List (List (BitVec 8)))
    (hfuel : dnsParseMeasure pkt pos jumps < fuel) (hoffset : jumps = 0 → offset ≤ pos)
    (hconsumed : jumps = 0 → consumed = pos - offset) (hjumps : jumps + more ≤ dnsMaxJumps)
    (hne : ∀ l ∈ labels, l ≠ []) (htext : (dnsText (labels ++ rest)).length < nameMax) :
    dnsParseNameFrom pkt offset nameMax fuel pos consumed jumps labels =
      some ⟨labels ++ rest, if jumps = 0 then pos - offset + size else consumed⟩ := by
  have hbyte : ∀ i, pkt.getD i 0 = byteAt pkt i := fun _ => rfl
  induction hwalk generalizing fuel consumed jumps labels with
  | root hseen hzero =>
      cases fuel with
      | zero => omega
      | succ fuel =>
          unfold dnsParseNameFrom
          rw [if_neg (Nat.not_le_of_lt hseen)]
          simp only [hbyte]
          rw [if_pos hzero, List.append_nil]
  | off =>
      cases fuel with
      | zero => omega
      | succ fuel =>
          unfold dnsParseNameFrom
          rw [if_pos (Nat.le_refl _), List.append_nil, Nat.add_zero]
          by_cases hj : jumps = 0
          · rw [if_pos hj, hconsumed hj]
          · rw [if_neg hj]
  | @label _ pos more size rest hseen hpos hle _ ih =>
      cases fuel with
      | zero => omega
      | succ fuel =>
          have hmax : dnsMaxLabelLen = 63 := rfl
          have hhere : pos < pkt.length := hseen 0 (Nat.zero_le _)
          have hlast : pos + (byteAt pkt pos).toNat < pkt.length := hseen _ (Nat.le_refl _)
          have hmeasure := dnsParseMeasure_label (byteAt pkt pos).toNat jumps hhere
          have hlen : (bytesFrom (byteAt pkt) (pos + 1) (byteAt pkt pos).toNat).length =
              (byteAt pkt pos).toNat := by simp [bytesFrom]
          have hroom := (dnsTextRoom_iff nameMax
            (bytesFrom (byteAt pkt) (pos + 1) (byteAt pkt pos).toNat) hne).mpr
            (Nat.lt_of_le_of_lt (length_dnsText_append_le _ rest) (by simpa using htext))
          rw [hlen] at hroom
          unfold dnsParseNameFrom
          rw [if_neg (Nat.not_le_of_lt hhere)]
          simp only [hbyte]
          rw [if_neg hpos, if_neg (by omega), if_neg (Nat.not_lt_of_le hle), if_neg (by omega),
            if_neg (by simpa using hroom), take_eq_bytesFrom (by omega)]
          show dnsParseNameFrom pkt offset nameMax fuel (pos + 1 + (byteAt pkt pos).toNat) _ jumps
            (labels ++ [bytesFrom (byteAt pkt) (pos + 1) (byteAt pkt pos).toNat]) = _
          rw [ih fuel _ jumps _ (by omega) (fun hj => by have := hoffset hj; omega)
            (fun hj => if_pos hj) hjumps ?_ (by simpa using htext), List.append_assoc,
            List.singleton_append]
          · refine congrArg (fun c => some (DnsName.mk _ c)) ?_
            by_cases hj : jumps = 0
            · have := hoffset hj
              rw [if_pos hj, if_pos hj]
              omega
            · simp only [if_neg hj]
          · intro l hl
            rcases List.mem_append.mp hl with hl | hl
            · exact hne l hl
            · rw [List.mem_singleton.mp hl]
              exact List.ne_nil_of_length_pos (by omega)
  | @pointer _ pos more size rest hseen hlow hptr hin _ ih =>
      cases fuel with
      | zero => omega
      | succ fuel =>
          have hmeasure := dnsParseMeasure_pointer pkt pos (nameTarget (byteAt pkt) pos)
            (show jumps + 1 ≤ dnsMaxJumps by omega)
          unfold dnsParseNameFrom
          rw [if_neg (Nat.not_le_of_lt hseen)]
          simp only [hbyte]
          rw [if_neg (show ¬ (byteAt pkt pos).toNat = 0 by omega), if_pos hptr,
            if_neg (Nat.not_le_of_lt hlow)]
          show (if pkt.length ≤ nameTarget (byteAt pkt) pos then none else _) = _
          rw [if_neg (Nat.not_le_of_lt hin), if_neg (by omega)]
          show dnsParseNameFrom pkt offset nameMax fuel (nameTarget (byteAt pkt) pos) _ (jumps + 1)
            labels = _
          rw [ih fuel _ (jumps + 1) labels (by omega) (by omega) (by omega) (by omega) hne htext,
            if_neg (by omega)]

/-- **A name is read exactly where one stands**, with a zero byte at its end or the end of the
message. -/
theorem dnsParseNameRd_iff {labels : List (List (BitVec 8))} {size : Nat} :
    (dnsParseNameRd pkt offset nameMax).val = some ⟨labels, size⟩ ↔
      offset < pkt.length ∧ ∃ closed, NameStands pkt nameMax closed offset labels size := by
  unfold dnsParseNameRd
  by_cases hroom : nameMax = 0
  · rw [if_pos hroom]
    refine ⟨fun h => absurd h (by simp), fun h => ?_⟩
    obtain ⟨-, -, -, -, -, htext⟩ := h
    omega
  rw [if_neg hroom, Rd.val_andThen, val_dnsParseNameFromRd]
  have hfits : NameFits nameMax [] := ⟨by simp, Nat.pos_of_ne_zero hroom⟩
  have hfuel : dnsParseMeasure pkt offset 0 < dnsParseFuel pkt := by
    unfold dnsParseMeasure dnsParseFuel
    rw [Nat.sub_zero, Nat.add_mul, Nat.one_mul]
    omega
  refine ⟨fun h => ?_, fun h => ?_⟩
  · obtain ⟨name, hname, h⟩ := Option.bind_eq_some_iff.mp h
    have hin : offset < pkt.length := by
      refine Nat.lt_of_not_le fun hend => ?_
      unfold dnsParseFuel dnsParseNameFrom at hname
      rw [if_pos hend] at hname
      rw [← Option.some.inj hname] at h
      exact absurd h (by simp)
    rw [Rd.val_pure] at h
    split at h
    · exact absurd h (by simp)
    obtain rfl : name = ⟨labels, size⟩ := Option.some.inj h
    obtain ⟨closed, more, rest, size', hwalk, hfew, htext, hname⟩ :=
      (walksOn_of_dnsParseNameFrom _ offset 0 0 [] (Nat.le_of_lt hin) (fun _ => Nat.le_refl _)
        (fun _ => (Nat.sub_self offset).symm) (Nat.zero_le _) hfits hname).walk
    rw [List.nil_append] at htext hname
    obtain ⟨rfl, hsize⟩ := DnsName.mk.inj hname
    rw [if_pos rfl, Nat.sub_self, Nat.zero_add] at hsize
    subst hsize
    exact ⟨hin, closed, more, by omega, hwalk, htext⟩
  · obtain ⟨hin, closed, jumps, hfew, hwalk, htext⟩ := h
    rw [dnsParseNameFrom_of_walk hwalk (dnsParseFuel pkt) 0 0 [] hfuel (fun _ => Nat.le_refl _)
      (fun _ => (Nat.sub_self offset).symm) (by omega) (by simp) (by simpa using htext)]
    have hsize := hwalk.size_pos (Nat.ne_of_lt hin)
    rw [Option.bind_some, Rd.val_pure, List.nil_append, if_pos rfl, Nat.sub_self, Nat.zero_add,
      if_neg (by show ¬ size = 0; omega)]

end

end FastRG
