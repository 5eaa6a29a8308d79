/-
What the DHCPv6 client does with a message.

The two loops over options are read as the model of the client reads them, they look at nothing
beyond the message, and they end: with as many rounds as the message has bytes, more rounds
change nothing.  A message that is refused leaves the client as it was.  A message that is acted on
is one for its state, with its transaction and its DUID, from the server it has chosen once it has
chosen one, and with exactly one association of prefixes, its own.  What the options of an
accepted message are is an invariant of the loop, over the options it has passed.

The timer is pending in every state but the idle one, even though a callback is run only when the
timer that was set once has gone off.
-/
import FastRG.Dhcp6Reads
import FastRG.Proofs.Dhcp6Lease

namespace FastRG

/-! ### The loops read what the model reads -/

theorem dhcp6NextOption_window {pkt : List (BitVec 8)} {cursor remaining : Nat}
    (hin : cursor + remaining ≤ pkt.length) :
    dhcp6NextOption ((pkt.drop cursor).take remaining) =
      if remaining < dhcp6OptionHeaderLen then none
      else if remaining - dhcp6OptionHeaderLen < (be16At pkt (cursor + 2)).toNat then none
      else
        some (⟨be16At pkt cursor, (pkt.drop (cursor + dhcp6OptionHeaderLen)).take
            (be16At pkt (cursor + 2)).toNat⟩,
          (pkt.drop (cursor + (dhcp6OptionHeaderLen + (be16At pkt (cursor + 2)).toNat))).take
            (remaining - (dhcp6OptionHeaderLen + (be16At pkt (cursor + 2)).toNat))) := by
  have hlen : ((pkt.drop cursor).take remaining).length = remaining := by
    rw [List.length_take, List.length_drop]
    omega
  have hget : ∀ i, i < remaining →
      ((pkt.drop cursor).take remaining).getD i 0 = pkt.getD (cursor + i) 0 := by
    intro i hi
    rw [List.getD_eq_getElem?_getD, List.getElem?_take_of_lt hi, List.getElem?_drop,
      List.getD_eq_getElem?_getD]
  unfold dhcp6NextOption
  simp only [hlen]
  by_cases hshort : remaining < dhcp6OptionHeaderLen
  · rw [if_pos hshort, if_pos hshort]
  rw [if_neg hshort, if_neg hshort]
  have hfour : 4 ≤ remaining := Nat.le_of_not_lt hshort
  have hcode : be16At ((pkt.drop cursor).take remaining) 0 = be16At pkt cursor := by
    unfold be16At
    rw [hget 0 (by omega), hget (0 + 1) (by omega)]
    rfl
  have hoptLen : be16At ((pkt.drop cursor).take remaining) 2 = be16At pkt (cursor + 2) := by
    unfold be16At
    rw [hget 2 (by omega), hget (2 + 1) (by omega)]
  rw [hcode, hoptLen]
  by_cases hlong : remaining - dhcp6OptionHeaderLen < (be16At pkt (cursor + 2)).toNat
  · rw [if_pos hlong, if_pos hlong]
  rw [if_neg hlong, if_neg hlong, List.drop_take, List.drop_drop, List.take_take, List.drop_take,
    List.drop_drop, Nat.min_eq_left (by omega)]

theorem val_dhcp6WalkRd {σ : Type} {pkt : List (BitVec 8)}
    {take : σ → BitVec 16 → Nat → Nat → Rd (Option σ)} {takeL : σ → Dhcp6Option → Option σ}
    (htake : ∀ s code value len, value + len ≤ pkt.length →
      (take s code value len).val = takeL s ⟨code, (pkt.drop value).take len⟩)
    (rounds cursor remaining : Nat) (s : σ) (hin : cursor + remaining ≤ pkt.length) :
    (dhcp6WalkRd (byteAt pkt) take rounds cursor remaining s).val =
      Walk.run dhcp6NextOption takeL rounds ((pkt.drop cursor).take remaining) s := by
  have hlen : ∀ cursor remaining, cursor + remaining ≤ pkt.length →
      ((pkt.drop cursor).take remaining).length = remaining := by
    intro cursor remaining hin
    rw [List.length_take, List.length_drop]
    omega
  induction rounds generalizing cursor remaining s with
  | zero =>
      have hcur := hlen cursor remaining hin
      unfold dhcp6WalkRd
      cases hwin : (pkt.drop cursor).take remaining with
      | nil =>
          rw [hwin, List.length_nil] at hcur
          rw [if_pos hcur.symm]
          rfl
      | cons b bs =>
          rw [hwin, List.length_cons] at hcur
          rw [if_neg (by omega)]
          rfl
  | succ rounds ih =>
      have hcur := hlen cursor remaining hin
      unfold dhcp6WalkRd
      rw [Rd.val_ite]
      by_cases hzero : remaining = 0
      · rw [if_pos hzero]
        subst hzero
        rfl
      rw [if_neg hzero]
      obtain ⟨b, bs, hwin⟩ := List.exists_cons_of_length_pos (by omega :
        0 < ((pkt.drop cursor).take remaining).length)
      have hrun : Walk.run dhcp6NextOption takeL (rounds + 1) ((pkt.drop cursor).take remaining) s =
          (dhcp6NextOption ((pkt.drop cursor).take remaining)).bind fun item =>
            (takeL s item.1).bind fun s => Walk.run dhcp6NextOption takeL rounds item.2 s := by
        rw [hwin]
        rfl
      rw [hrun, dhcp6NextOption_window hin, Rd.val_ite]
      by_cases hshort : remaining < dhcp6OptionHeaderLen
      · rw [if_pos hshort, if_pos hshort]
        rfl
      rw [if_neg hshort, if_neg hshort, Rd.val_bind, val_be16, Rd.val_bind, val_be16, Rd.val_ite]
      by_cases hlong : remaining - dhcp6OptionHeaderLen < (be16At pkt (cursor + 2)).toNat
      · rw [if_pos hlong, if_pos hlong]
        rfl
      have hfour : 4 ≤ remaining := Nat.le_of_not_lt hshort
      have hhdr : dhcp6OptionHeaderLen = 4 := rfl
      rw [if_neg hlong, if_neg hlong, Rd.val_andThen, htake _ _ _ _ (by omega)]
      show (takeL s _).bind _ = (takeL s _).bind _
      cases takeL s ⟨be16At pkt cursor, _⟩ with
      | none => rfl
      | some s₁ => exact ih _ _ s₁ (by omega)

theorem getD_window {pkt : List (BitVec 8)} {value len i : Nat} (hi : i < len) :
    ((pkt.drop value).take len).getD i 0 = pkt.getD (value + i) 0 := by
  rw [List.getD_eq_getElem?_getD, List.getElem?_take_of_lt hi, List.getElem?_drop,
    List.getD_eq_getElem?_getD]

theorem length_window {pkt : List (BitVec 8)} {value len : Nat} (h : value + len ≤ pkt.length) :
    ((pkt.drop value).take len).length = len := by
  rw [List.length_take, List.length_drop]
  omega

theorem be16At_window {pkt : List (BitVec 8)} {value len i : Nat} (hi : i + 2 ≤ len) :
    be16At ((pkt.drop value).take len) i = be16At pkt (value + i) := by
  unfold be16At
  rw [getD_window (by omega), getD_window (by omega), Nat.add_assoc]

theorem be32At_window {pkt : List (BitVec 8)} {value len i : Nat} (hi : i + 4 ≤ len) :
    be32At ((pkt.drop value).take len) i = be32At pkt (value + i) := by
  unfold be32At
  rw [be16At_window (by omega), be16At_window (by omega), Nat.add_assoc]

/-- Bytes taken out of an option are those that stand in the message. -/
theorem bytesAt_window {n : Nat} {pkt : List (BitVec 8)} {value len count : Nat} (off : Nat)
    (hoff : off + count ≤ len) :
    bytesAt n ((pkt.drop value).take len) off count =
      bytesAt n ((pkt.drop (value + off)).take count) 0 count := by
  unfold bytesAt
  congr 1
  funext i
  by_cases hi : i.val < count
  · rw [if_pos hi, if_pos hi, getD_window (by omega), getD_window (by omega), Nat.zero_add,
      Nat.add_assoc]
  · rw [if_neg hi, if_neg hi]

/-- Of more bytes than there is room for, the first ones are kept. -/
theorem bytesAt_min {n : Nat} (pkt : List (BitVec 8)) (value len : Nat) :
    bytesAt n ((pkt.drop value).take len) 0 len =
      bytesAt n ((pkt.drop value).take (min len n)) 0 (min len n) := by
  unfold bytesAt
  congr 1
  funext i
  by_cases hi : i.val < len
  · rw [if_pos hi, if_pos (by omega), getD_window (by omega), getD_window (by omega)]
  · rw [if_neg hi, if_neg (by omega)]

theorem val_dhcp6IaPdOptionRd {pkt : List (BitVec 8)} (r : Dhcp6IaPd) (code : BitVec 16)
    {value len : Nat} (hin : value + len ≤ pkt.length) :
    (dhcp6IaPdOptionRd (byteAt pkt) r code value len).val =
      dhcp6IaPdOption r ⟨code, (pkt.drop value).take len⟩ := by
  unfold dhcp6IaPdOptionRd dhcp6IaPdOption
  simp only [Rd.val_ite, length_window hin]
  refine if_congr Iff.rfl ?_ (if_congr Iff.rfl ?_ rfl)
  · by_cases hshort : len < 2
    · rw [if_pos hshort, if_pos hshort]
      rfl
    · rw [if_neg hshort, if_neg hshort, be16At_window (by omega)]
      rfl
  · by_cases hlen : r.hasPrefix = true ∨ len ≠ dhcp6IaprefixLen
    · rw [if_pos hlen, if_pos hlen]
      rfl
    · have h25 : len = 25 := Decidable.not_not.mp fun hne => hlen (Or.inr hne)
      rw [if_neg hlen, if_neg hlen, Rd.val_bind, val_u8, Rd.val_ite, getD_window (by omega)]
      refine if_congr Iff.rfl rfl ?_
      rw [Rd.val_bind, val_bytes (by omega), bytesAt_window 9 (by omega)]
      rfl

theorem val_dhcp6ParseIaPdRd {pkt : List (BitVec 8)} (userNum : BitVec 16) {rounds data len : Nat}
    (hin : data + len ≤ pkt.length) (hrounds : len ≤ rounds) :
    (dhcp6ParseIaPdRd (byteAt pkt) rounds userNum data len).val =
      dhcp6ParseIaPd userNum ((pkt.drop data).take len) := by
  unfold dhcp6ParseIaPdRd dhcp6ParseIaPd
  have hhdr : dhcp6IaPdHeaderLen = 12 := rfl
  rw [Rd.val_ite, length_window hin]
  by_cases hshort : len < dhcp6IaPdHeaderLen
  · rw [if_pos hshort, if_pos (Or.inl hshort)]
    rfl
  rw [if_neg hshort, Rd.val_bind, val_be32, Rd.val_ite, be32At_window (by omega)]
  by_cases hiaid : be32At pkt data = userNum.setWidth 32
  · rw [if_neg (not_not_intro hiaid), if_neg (by simp [hshort, hiaid]), Rd.val_bind, val_be32,
      Rd.val_andThen,
      val_dhcp6WalkRd (fun s code _ _ h => val_dhcp6IaPdOptionRd s code h) _ _ _ _ (by omega),
      be32At_window (by omega), List.drop_take, List.drop_drop,
      dhcp6Walk_enough _ _ (by rw [length_window (by omega)]; omega),
      Walk.run_enough (fun _ _ _ => dhcp6NextOption_shrinks) len _ _
        (by rw [length_window (by omega)]; omega)]
    rfl
  · rw [if_pos hiaid, if_pos (by simp [hiaid])]
    rfl

theorem val_dhcp6ResponseOptionRd {pkt : List (BitVec 8)} (c : Dhcp6Ccb) (r : Dhcp6Response)
    (code : BitVec 16) {rounds value len : Nat} (hin : value + len ≤ pkt.length)
    (hrounds : pkt.length ≤ rounds) :
    (dhcp6ResponseOptionRd (byteAt pkt) rounds c r code value len).val =
      dhcp6ResponseOption c r ⟨code, (pkt.drop value).take len⟩ := by
  unfold dhcp6ResponseOptionRd dhcp6ResponseOption
  simp only [Rd.val_ite, length_window hin]
  refine if_congr Iff.rfl ?_ (if_congr Iff.rfl ?_ (if_congr Iff.rfl ?_ (if_congr Iff.rfl ?_ rfl)))
  · refine if_congr Iff.rfl rfl ?_
    rw [Rd.val_bind, val_bytes hin]
    rfl
  · by_cases hlen : r.hasClient = true ∨ len ≠ dhcp6DuidLlLen
    · rw [if_pos hlen, if_pos (by tauto)]
      rfl
    · have h10 : len = dhcp6DuidLlLen := Decidable.not_not.mp fun hne => hlen (Or.inr hne)
      have hunseen : r.hasClient = false := by simpa using fun hseen => hlen (Or.inl hseen)
      rw [if_neg hlen, Rd.val_bind, val_bytes (by omega), ← h10]
      by_cases hduid : (pkt.drop value).take len = c.clientDuid
      · simp [hunseen, hduid]
      · simp [hduid]
  · by_cases hseen : r.hasIaPd = true
    · rw [if_pos hseen, if_pos hseen]
      rfl
    · rw [if_neg hseen, if_neg hseen, Rd.val_andThen,
        val_dhcp6ParseIaPdRd c.userNum hin (by omega)]
      cases dhcp6ParseIaPd c.userNum ((pkt.drop value).take len) with
      | none => rfl
      | some iaPd => rfl
  · refine if_congr Iff.rfl rfl ?_
    have hdns : bytesAt 32 ((pkt.drop value).take len) 0 len = _ := bytesAt_min pkt value len
    rw [hdns, Rd.val_bind, val_bytes (by omega)]
    rfl

/-- **The parser reads a message as the model of the client does, however many rounds it has.** -/
theorem val_dhcp6ParseResponseRd (c : Dhcp6Ccb) (dhcp : List (BitVec 8)) (expectedType : BitVec 8)
    {rounds : Nat} (hrounds : dhcp.length ≤ rounds) :
    (dhcp6ParseResponseRd (byteAt dhcp) rounds c dhcp.length expectedType).val =
      dhcp6ParseResponse c dhcp expectedType := by
  unfold dhcp6ParseResponseRd dhcp6ParseResponse
  have hhdr : dhcp6HeaderLen = 4 := rfl
  rw [Rd.val_ite]
  by_cases hshort : dhcp.length < dhcp6HeaderLen
  · rw [if_pos hshort, if_pos (Or.inl hshort)]
    rfl
  rw [if_neg hshort, Rd.val_bind, val_u8, Rd.val_ite]
  by_cases htype : dhcp.getD 0 0 = expectedType
  · rw [if_neg (not_not_intro htype), Rd.val_bind, val_u8, Rd.val_bind, val_u8, Rd.val_bind,
      val_u8, Rd.val_ite]
    by_cases hxid : dhcp.getD 1 0 ++ dhcp.getD 2 0 ++ dhcp.getD 3 0 = c.xid
    · have hwhole : (dhcp.drop 4).take (dhcp.length - 4) = dhcp.drop 4 :=
        List.take_of_length_le (Nat.le_of_eq List.length_drop)
      rw [if_neg (not_not_intro hxid), if_neg (by tauto), Rd.val_andThen,
        val_dhcp6WalkRd
          (fun s code _ _ h => val_dhcp6ResponseOptionRd c s code h hrounds) _ _ _ _ (by omega),
        hhdr, hwhole, dhcp6Walk_enough _ _ (by rw [List.length_drop]; omega),
        Walk.run_enough (fun _ _ _ => dhcp6NextOption_shrinks) dhcp.length _ _
          (by rw [List.length_drop]; omega)]
      rfl
    · rw [if_pos hxid, if_pos (Or.inr (Or.inr hxid))]
      rfl
  · rw [if_pos htype, if_pos (Or.inr (Or.inl htype))]
    rfl

theorem val_processMessageRd (rand : BitVec 32) (c : Dhcp6Ccb) (dhcp : List (BitVec 8))
    {rounds : Nat} (hrounds : dhcp.length ≤ rounds) :
    (c.processMessageRd (byteAt dhcp) rounds rand dhcp.length).val = c.processMessage rand dhcp := by
  unfold Dhcp6Ccb.processMessageRd Dhcp6Ccb.processMessage
  cases c.expectedType with
  | none => rfl
  | some expectedType =>
      show _ = _
      dsimp only
      rw [Rd.val_bind, val_dhcp6ParseResponseRd c dhcp expectedType hrounds]
      rfl

/-! ### Nothing beyond the message is read -/

section

variable {mem : Nat → BitVec 8} {limit : Nat}

theorem below_dhcp6WalkRd {σ : Type} {take : σ → BitVec 16 → Nat → Nat → Rd (Option σ)}
    (htake : ∀ s code value len, value + len ≤ limit → Rd.Below limit (take s code value len))
    (rounds cursor remaining : Nat) (s : σ) (hin : cursor + remaining ≤ limit) :
    Rd.Below limit (dhcp6WalkRd mem take rounds cursor remaining s) := by
  have hhdr : dhcp6OptionHeaderLen = 4 := rfl
  induction rounds generalizing cursor remaining s with
  | zero => exact Rd.below_pure _
  | succ rounds ih =>
      unfold dhcp6WalkRd
      refine Rd.below_ite (fun _ => Rd.below_pure _) ?_
      intro _
      refine Rd.below_ite (fun _ => Rd.below_pure _) ?_
      intro hfour
      refine Rd.below_bind (Rd.below_be16 (by omega)) ?_
      refine Rd.below_bind (Rd.below_be16 (by omega)) ?_
      refine Rd.below_ite (fun _ => Rd.below_pure _) ?_
      intro hfits
      refine Rd.below_andThen (htake _ _ _ _ (by omega)) ?_
      intro s₁ _
      exact ih _ _ s₁ (by omega)

theorem below_dhcp6IaPdOptionRd (r : Dhcp6IaPd) (code : BitVec 16) {value len : Nat}
    (hin : value + len ≤ limit) : Rd.Below limit (dhcp6IaPdOptionRd mem r code value len) := by
  have hprefix : dhcp6IaprefixLen = 25 := rfl
  unfold dhcp6IaPdOptionRd
  refine Rd.below_ite ?_ ?_
  · intro _
    refine Rd.below_ite (fun _ => Rd.below_pure _) ?_
    intro hlen
    exact Rd.below_bind (Rd.below_be16 (by omega)) (Rd.below_pure _)
  · intro _
    refine Rd.below_ite ?_ (fun _ => Rd.below_pure _)
    intro _
    refine Rd.below_ite (fun _ => Rd.below_pure _) ?_
    intro hlen
    have h25 : len = dhcp6IaprefixLen := Decidable.not_not.mp fun hne => hlen (Or.inr hne)
    refine Rd.below_bind (Rd.below_u8 (by omega)) ?_
    refine Rd.below_ite (fun _ => Rd.below_pure _) ?_
    intro _
    exact Rd.below_bind (Rd.below_bytes (by omega)) (Rd.below_pure _)

theorem below_dhcp6ParseIaPdRd (rounds : Nat) (userNum : BitVec 16) {data len : Nat}
    (hin : data + len ≤ limit) :
    Rd.Below limit (dhcp6ParseIaPdRd mem rounds userNum data len) := by
  have hhdr : dhcp6IaPdHeaderLen = 12 := rfl
  unfold dhcp6ParseIaPdRd
  refine Rd.below_ite (fun _ => Rd.below_pure _) ?_
  intro hlen
  refine Rd.below_bind (Rd.below_be32 (by omega)) ?_
  refine Rd.below_ite (fun _ => Rd.below_pure _) ?_
  intro _
  refine Rd.below_bind (Rd.below_be32 (by omega)) ?_
  refine Rd.below_andThen ?_ (fun _ _ => Rd.below_pure _)
  exact below_dhcp6WalkRd (fun s code _ _ h => below_dhcp6IaPdOptionRd s code h) _ _ _ _ (by omega)

theorem below_dhcp6ResponseOptionRd (rounds : Nat) (c : Dhcp6Ccb) (r : Dhcp6Response)
    (code : BitVec 16) {value len : Nat} (hin : value + len ≤ limit) :
    Rd.Below limit (dhcp6ResponseOptionRd mem rounds c r code value len) := by
  unfold dhcp6ResponseOptionRd
  refine Rd.below_ite ?_ ?_
  · intro _
    refine Rd.below_ite (fun _ => Rd.below_pure _) ?_
    intro _
    exact Rd.below_bind (Rd.below_bytes hin) (Rd.below_pure _)
  intro _
  refine Rd.below_ite ?_ ?_
  · intro _
    refine Rd.below_ite (fun _ => Rd.below_pure _) ?_
    intro hlen
    have h10 : len = dhcp6DuidLlLen := Decidable.not_not.mp fun hne => hlen (Or.inr hne)
    exact Rd.below_bind (Rd.below_bytes (by omega)) (Rd.below_pure _)
  intro _
  refine Rd.below_ite ?_ ?_
  · intro _
    refine Rd.below_ite (fun _ => Rd.below_pure _) ?_
    intro _
    exact Rd.below_andThen (below_dhcp6ParseIaPdRd rounds c.userNum hin) fun _ _ =>
      Rd.below_pure _
  intro _
  refine Rd.below_ite ?_ (fun _ => Rd.below_pure _)
  intro _
  refine Rd.below_ite (fun _ => Rd.below_pure _) ?_
  intro _
  exact Rd.below_bind (Rd.below_bytes (by omega)) (Rd.below_pure _)

theorem below_processMessageRd (rounds : Nat) (rand : BitVec 32) (c : Dhcp6Ccb) (len : Nat) :
    Rd.Below len (c.processMessageRd mem rounds rand len) := by
  have hhdr : dhcp6HeaderLen = 4 := rfl
  unfold Dhcp6Ccb.processMessageRd
  cases c.expectedType with
  | none => exact Rd.below_pure _
  | some expectedType =>
      refine Rd.below_bind ?_ (Rd.below_pure _)
      unfold dhcp6ParseResponseRd
      refine Rd.below_ite (fun _ => Rd.below_pure _) ?_
      intro hlen
      refine Rd.below_bind (Rd.below_u8 (by omega)) ?_
      refine Rd.below_ite (fun _ => Rd.below_pure _) ?_
      intro _
      refine Rd.below_bind (Rd.below_u8 (by omega)) ?_
      refine Rd.below_bind (Rd.below_u8 (by omega)) ?_
      refine Rd.below_bind (Rd.below_u8 (by omega)) ?_
      refine Rd.below_ite (fun _ => Rd.below_pure _) ?_
      intro _
      refine Rd.below_andThen ?_ (fun _ _ => Rd.below_pure _)
      exact below_dhcp6WalkRd (fun s code _ _ h => below_dhcp6ResponseOptionRd rounds c s code h)
        _ _ _ _ (by omega)

end

/-! ### What an accepted message is -/

/-- An option as it stands in a message. -/
def Dhcp6Option.bytes (o : Dhcp6Option) : List (BitVec 8) :=
  be16Bytes o.code ++ (be16Bytes (BitVec.ofNat 16 o.value.length) ++ o.value)

/-- The values of the options with some code. -/
def valuesOf (code : BitVec 16) (os : List Dhcp6Option) : List (List (BitVec 8)) :=
  (os.filter fun o => o.code = code).map Dhcp6Option.value

theorem valuesOf_snoc (code : BitVec 16) (os : List Dhcp6Option) (o : Dhcp6Option) :
    valuesOf code (os ++ [o]) = valuesOf code os ++ if o.code = code then [o.value] else [] := by
  unfold valuesOf
  rw [List.filter_append, List.map_append]
  by_cases h : o.code = code
  · simp [h]
  · simp [h]

theorem be16Bytes_append (hi lo : BitVec 8) : be16Bytes (hi ++ lo) = [hi, lo] := by
  unfold be16Bytes
  have hhi : (hi ++ lo).extractLsb' 8 8 = hi := BitVec.extractLsb'_append_eq_left
  have hlo : (hi ++ lo).extractLsb' 0 8 = lo := BitVec.extractLsb'_append_eq_right
  rw [hhi, hlo]

/-- What the loops read an option from is the option, as it stands in the message. -/
theorem dhcp6NextOption_bytes {bs rest : List (BitVec 8)} {o : Dhcp6Option}
    (h : dhcp6NextOption bs = some (o, rest)) : bs = o.bytes ++ rest := by
  unfold dhcp6NextOption at h
  simp only at h
  split at h
  · exact absurd h (by simp)
  rename_i hfour
  split at h
  · exact absurd h (by simp)
  rename_i hfits
  obtain ⟨ho, hrest⟩ := Prod.mk.inj (Option.some.inj h)
  subst ho
  subst hrest
  have hhdr : dhcp6OptionHeaderLen = 4 := rfl
  rw [hhdr] at hfour hfits
  obtain ⟨b₀, b₁, b₂, b₃, tail, rfl⟩ : ∃ b₀ b₁ b₂ b₃ tail, bs = b₀ :: b₁ :: b₂ :: b₃ :: tail := by
    obtain ⟨b₀, t₀, rfl⟩ := List.exists_cons_of_length_pos (by omega : 0 < bs.length)
    simp only [List.length_cons] at hfour
    obtain ⟨b₁, t₁, rfl⟩ := List.exists_cons_of_length_pos (by omega : 0 < t₀.length)
    simp only [List.length_cons] at hfour
    obtain ⟨b₂, t₂, rfl⟩ := List.exists_cons_of_length_pos (by omega : 0 < t₁.length)
    simp only [List.length_cons] at hfour
    obtain ⟨b₃, t₃, rfl⟩ := List.exists_cons_of_length_pos (by omega : 0 < t₂.length)
    exact ⟨b₀, b₁, b₂, b₃, t₃, rfl⟩
  have hcode : be16At (b₀ :: b₁ :: b₂ :: b₃ :: tail) 0 = b₀ ++ b₁ := rfl
  have hoptLen : be16At (b₀ :: b₁ :: b₂ :: b₃ :: tail) 2 = b₂ ++ b₃ := rfl
  simp only [List.length_cons] at hfits
  rw [hoptLen] at hfits
  have hlen : BitVec.ofNat 16 (tail.take (b₂ ++ b₃).toNat).length = b₂ ++ b₃ := by
    rw [List.length_take, Nat.min_eq_left (by omega)]
    exact BitVec.eq_of_toNat_eq (by simp)
  rw [hcode, hoptLen, hhdr, ← List.drop_drop]
  unfold Dhcp6Option.bytes
  show _ = be16Bytes (b₀ ++ b₁) ++ (be16Bytes (BitVec.ofNat 16 (tail.take (b₂ ++ b₃).toNat).length) ++
    tail.take (b₂ ++ b₃).toNat) ++ _
  rw [hlen, be16Bytes_append, be16Bytes_append]
  show b₀ :: b₁ :: b₂ :: b₃ :: tail =
    b₀ :: b₁ :: b₂ :: b₃ :: (tail.take (b₂ ++ b₃).toNat ++ tail.drop (b₂ ++ b₃).toNat)
  rw [List.take_append_drop]

/-- What the options passed so far say of the response that has been read. -/
structure OptionsRead (c : Dhcp6Ccb) (os : List Dhcp6Option) (r : Dhcp6Response) : Prop where
  server : valuesOf dhcp6OptServerid os = if r.hasServer then [r.serverDuid] else []
  client : valuesOf dhcp6OptClientid os = if r.hasClient then [c.clientDuid] else []
  iaPd : (r.hasIaPd = false → valuesOf dhcp6OptIaPd os = []) ∧
    (r.hasIaPd = true → ∃ v, valuesOf dhcp6OptIaPd os = [v] ∧
      dhcp6ParseIaPd c.userNum v = some r.iaPd)

theorem OptionsRead.option {c : Dhcp6Ccb} {os : List Dhcp6Option} {r r' : Dhcp6Response}
    {o : Dhcp6Option} (h : OptionsRead c os r) (ho : dhcp6ResponseOption c r o = some r') :
    OptionsRead c (os ++ [o]) r' := by
  -- An option with another code adds nothing to the values of this one.
  have hother : ∀ code, o.code ≠ code → valuesOf code (os ++ [o]) = valuesOf code os := by
    intro code hne
    rw [valuesOf_snoc, if_neg hne, List.append_nil]
  have hsame : valuesOf o.code (os ++ [o]) = valuesOf o.code os ++ [o.value] := by
    rw [valuesOf_snoc, if_pos rfl]
  unfold dhcp6ResponseOption at ho
  split at ho
  · rename_i hcode
    split at ho
    · exact absurd ho (by simp)
    rename_i hnew
    obtain rfl := Option.some.inj ho
    have hunseen : r.hasServer = false := by simpa using fun hseen => hnew (Or.inl hseen)
    refine ⟨?_, ?_, ?_⟩
    · rw [← hcode, hsame, hcode, h.server, hunseen]
      rfl
    · rw [hother _ (by rw [hcode]; decide)]
      exact h.client
    · rw [hother _ (by rw [hcode]; decide)]
      exact h.iaPd
  split at ho
  · rename_i hcode
    split at ho
    · exact absurd ho (by simp)
    rename_i hnew
    obtain rfl := Option.some.inj ho
    have hunseen : r.hasClient = false := by simpa using fun hseen => hnew (Or.inl hseen)
    have hduid : o.value = c.clientDuid :=
      Decidable.not_not.mp fun hne => hnew (Or.inr (Or.inr hne))
    refine ⟨?_, ?_, ?_⟩
    · rw [hother _ (by rw [hcode]; decide)]
      exact h.server
    · rw [← hcode, hsame, hcode, h.client, hunseen, hduid]
      rfl
    · rw [hother _ (by rw [hcode]; decide)]
      exact h.iaPd
  split at ho
  · rename_i hcode
    split at ho
    · exact absurd ho (by simp)
    rename_i hnew
    obtain ⟨iaPd, hparse, rfl⟩ := Option.map_eq_some_iff.mp ho
    have hunseen : r.hasIaPd = false := by simpa using hnew
    refine ⟨?_, ?_, fun hno => absurd hno (by simp), ?_⟩
    · rw [hother _ (by rw [hcode]; decide)]
      exact h.server
    · rw [hother _ (by rw [hcode]; decide)]
      exact h.client
    · intro _
      refine ⟨o.value, ?_, hparse⟩
      rw [← hcode, hsame, hcode, h.iaPd.1 hunseen]
      rfl
  rename_i hserver hclient hiaPd
  have hkept : r'.hasServer = r.hasServer ∧ r'.serverDuid = r.serverDuid ∧
      r'.hasClient = r.hasClient ∧ r'.hasIaPd = r.hasIaPd ∧ r'.iaPd = r.iaPd := by
    split at ho
    · split at ho
      · exact absurd ho (by simp)
      · obtain rfl := Option.some.inj ho
        exact ⟨rfl, rfl, rfl, rfl, rfl⟩
    · obtain rfl := Option.some.inj ho
      exact ⟨rfl, rfl, rfl, rfl, rfl⟩
  obtain ⟨h₁, h₂, h₃, h₄, h₅⟩ := hkept
  refine ⟨?_, ?_, ?_⟩
  · rw [hother _ hserver, h₁, h₂]
    exact h.server
  · rw [hother _ hclient, h₃]
    exact h.client
  · rw [hother _ hiaPd, h₄, h₅]
    exact h.iaPd

/-- The message is one for the client's state: of the type that the state waits for, with its
transaction and its DUID, from its server if it has chosen one, and with one association of
prefixes, its own. -/
structure Dhcp6Fits (c : Dhcp6Ccb) (dhcp : List (BitVec 8)) (os : List Dhcp6Option) : Prop where
  options : dhcp.drop dhcp6HeaderLen = os.flatMap Dhcp6Option.bytes
  length : dhcp6HeaderLen ≤ dhcp.length
  type : c.state = .soliciting ∧ dhcp.getD 0 0 = dhcp6Advertise ∨
    (c.state = .requesting ∨ c.state = .renewing) ∧ dhcp.getD 0 0 = dhcp6Reply
  xid : dhcp.getD 1 0 ++ dhcp.getD 2 0 ++ dhcp.getD 3 0 = c.xid
  client : valuesOf dhcp6OptClientid os = [c.clientDuid]
  server : c.state = .requesting ∨ c.state = .renewing →
    valuesOf dhcp6OptServerid os = [c.serverDuid]
  iaPd : ∃ v, valuesOf dhcp6OptIaPd os = [v] ∧ dhcp6IaPdHeaderLen ≤ v.length ∧
    be32At v 0 = c.userNum.setWidth 32

/-- A response that is accepted, with its options. -/
theorem options_of_dhcp6ParseResponse {c : Dhcp6Ccb} {dhcp : List (BitVec 8)}
    {expectedType : BitVec 8} {r : Dhcp6Response}
    (h : dhcp6ParseResponse c dhcp expectedType = some r) :
    dhcp6HeaderLen ≤ dhcp.length ∧ dhcp.getD 0 0 = expectedType ∧
      dhcp.getD 1 0 ++ dhcp.getD 2 0 ++ dhcp.getD 3 0 = c.xid ∧
      ∃ os, dhcp.drop dhcp6HeaderLen = os.flatMap Dhcp6Option.bytes ∧
        valuesOf dhcp6OptServerid os = [r.serverDuid] ∧
        valuesOf dhcp6OptClientid os = [c.clientDuid] ∧
        ∃ v, valuesOf dhcp6OptIaPd os = [v] ∧ dhcp6ParseIaPd c.userNum v = some r.iaPd := by
  unfold dhcp6ParseResponse at h
  split at h
  · exact absurd h (by simp)
  rename_i hhead
  obtain ⟨r₁, hrun, h⟩ := Option.bind_eq_some_iff.mp h
  split at h
  case isFalse => exact absurd h (by simp)
  rename_i hseen
  obtain rfl := Option.some.inj h
  obtain ⟨os, hbytes, hread⟩ := Walk.run_reads Dhcp6Option.bytes
    (fun _ _ _ => dhcp6NextOption_bytes) (OptionsRead c) (fun _ _ _ _ hr ho => hr.option ho) _ _ []
    hrun ⟨rfl, rfl, fun _ => rfl, fun hno => absurd hno (by simp [Dhcp6Response.zero])⟩
  rw [List.nil_append] at hread
  obtain ⟨hserver, hclient, hiaPd⟩ := hseen
  refine ⟨by omega, Decidable.not_not.mp fun hne => hhead (Or.inr (Or.inl hne)),
    Decidable.not_not.mp fun hne => hhead (Or.inr (Or.inr hne)), os, hbytes, ?_, ?_,
    hread.iaPd.2 hiaPd⟩
  · rw [hread.server, if_pos hserver]
  · rw [hread.client, if_pos hclient]

theorem iaid_of_dhcp6ParseIaPd {userNum : BitVec 16} {data : List (BitVec 8)} {r : Dhcp6IaPd}
    (h : dhcp6ParseIaPd userNum data = some r) :
    dhcp6IaPdHeaderLen ≤ data.length ∧ be32At data 0 = userNum.setWidth 32 := by
  unfold dhcp6ParseIaPd at h
  split at h
  · exact absurd h (by simp)
  rename_i hhead
  exact ⟨by omega, Decidable.not_not.mp fun hne => hhead (Or.inr hne)⟩

/-- A message is refused with nothing changed, or fits the client's state. -/
theorem processMessage_cases (rand : BitVec 32) (c : Dhcp6Ccb) (dhcp : List (BitVec 8)) :
    c.processMessage rand dhcp = (.error, c) ∨
      (c.processMessage rand dhcp).1 = .success ∧ ∃ os, Dhcp6Fits c dhcp os := by
  unfold Dhcp6Ccb.processMessage
  cases hexpected : c.expectedType with
  | none => exact Or.inl rfl
  | some expectedType =>
      dsimp only
      cases hparse : dhcp6ParseResponse c dhcp expectedType with
      | none => exact Or.inl rfl
      | some r =>
          dsimp only
          by_cases hserver :
              (c.state = .requesting ∨ c.state = .renewing) ∧ r.serverDuid ≠ c.serverDuid
          · rw [if_pos hserver]
            exact Or.inl rfl
          rw [if_neg hserver]
          refine Or.inr ⟨?_, ?_⟩
          · split
            · rfl
            · split <;> rfl
          · obtain ⟨hlen, htype, hxid, os, hbytes, hsid, hcid, v, hv, hiaPd⟩ :=
              options_of_dhcp6ParseResponse hparse
            obtain ⟨hvlen, hiaid⟩ := iaid_of_dhcp6ParseIaPd hiaPd
            refine ⟨os, hbytes, hlen, ?_, hxid, hcid, ?_, v, hv, hvlen, hiaid⟩
            · unfold Dhcp6Ccb.expectedType at hexpected
              rw [htype]
              cases hstate : c.state with
              | idle => simp [hstate] at hexpected
              | soliciting => simp [hstate] at hexpected; exact Or.inl ⟨rfl, hexpected.symm⟩
              | requesting => simp [hstate] at hexpected; exact Or.inr ⟨Or.inl rfl, hexpected.symm⟩
              | bound => simp [hstate] at hexpected
              | renewing => simp [hstate] at hexpected; exact Or.inr ⟨Or.inr rfl, hexpected.symm⟩
            · intro hchosen
              rw [hsid, Decidable.not_not.mp fun hne => hserver ⟨hchosen, hne⟩]

/-! ### The timer -/

namespace Dhcp6Ccb

/-- Out of the idle state, the timer is pending. -/
def Armed (c : Dhcp6Ccb) : Prop := c.state ≠ .idle → c.timer.isSome = true

theorem armed_of_timer {c : Dhcp6Ccb} (h : c.timer.isSome = true) : c.Armed := fun _ => h

theorem armed_pdStop (c : Dhcp6Ccb) : c.pdStop.Armed := fun h => absurd rfl h

theorem Armed.congr {c c' : Dhcp6Ccb} (h : c.Armed) (hstate : c'.state = c.state)
    (htimer : c'.timer = c.timer) : c'.Armed := by
  intro hne
  rw [htimer]
  exact h (hstate ▸ hne)

theorem Armed.pdStart {c : Dhcp6Ccb} (h : c.Armed) (rand : BitVec 32) : (c.pdStart rand).Armed := by
  unfold Dhcp6Ccb.pdStart
  split
  · exact h
  · exact armed_of_timer rfl

/-- A message that is acted on arms the timer, whichever of the three ways it goes. -/
theorem Armed.processMessage {c : Dhcp6Ccb} (h : c.Armed) (rand : BitVec 32)
    (dhcp : List (BitVec 8)) : (c.processMessage rand dhcp).2.Armed := by
  unfold Dhcp6Ccb.processMessage
  split
  · exact h
  split
  · exact h
  split
  · exact h
  split
  · exact armed_of_timer rfl
  split
  · exact armed_of_timer rfl
  · exact armed_of_timer rfl

/-- The callback arms the timer again, even when it was set once and has just gone off. -/
theorem armed_timerCb (c : Dhcp6Ccb) (rand : BitVec 32) : (c.timerCb rand).Armed := by
  unfold timerCb
  split
  · exact armed_pdStop c
  split
  · exact armed_of_timer rfl
  · exact armed_of_timer rfl
  · split
    · exact armed_of_timer rfl
    · exact armed_of_timer rfl
  · exact armed_of_timer rfl
  · rename_i hidle
    exact fun hne => absurd hidle hne

theorem Armed.timedStep {c : Dhcp6Ccb} (h : c.Armed) (op : Dhcp6Op) : (c.timedStep op).Armed := by
  cases op with
  | pdStart rand => exact h.pdStart rand
  | pdStop => exact armed_pdStop c
  | timer rand =>
      unfold Dhcp6Ccb.timedStep
      dsimp only
      split
      · exact armed_timerCb _ rand
      · exact h
  | message rand dhcp => exact h.processMessage rand dhcp
  | ipv6Enabled enable => exact h.congr rfl rfl
  | ipv6cpUp up => exact h.congr rfl rfl
  | layerUp rand =>
      have hup : (c.setIpv6cpUp true).Armed := h.congr rfl rfl
      exact hup.pdStart rand
  | layerDown => exact (armed_pdStop c).congr rfl rfl

end Dhcp6Ccb

/-! ### Every message in every state -/

/-- A message is read to its end and not beyond, is refused without a trace, and is acted on only
if it fits. -/
structure Dhcp6MessageSafe (rand : BitVec 32) (c : Dhcp6Ccb) (dhcp : List (BitVec 8)) : Prop where
  ends : ∀ rounds, dhcp.length ≤ rounds →
    (c.processMessageRd (byteAt dhcp) rounds rand dhcp.length).val = c.processMessage rand dhcp
  inside : ∀ mem rounds, Rd.Below dhcp.length (c.processMessageRd mem rounds rand dhcp.length)
  refused : (c.processMessage rand dhcp).1 = .error → (c.processMessage rand dhcp).2 = c
  acted : (c.processMessage rand dhcp).1 = .success → ∃ os, Dhcp6Fits c dhcp os

/--
**A DHCPv6 message changes everything it should or nothing, and the client never stalls.**  In
every state the client reaches, in whatever order it is started and stopped, its timer goes off,
messages arrive, and IPv6 and IPV6CP are switched: the timer is pending unless the client is idle,
and every string of bytes is read within its length in at most as many rounds as it is long, is
refused with the client left as it was, or fits the client's state.
-/
theorem run_dhcp6_messages (userNum : BitVec 16) (mac : Vector (BitVec 8) 6) {ls : List Dhcp6Op}
    {c : Dhcp6Ccb}
    (h : Run Dhcp6Ccb.timedStep (fun _ _ => True) (Dhcp6Ccb.start userNum mac) ls c) :
    (c.state ≠ .idle → c.timer.isSome = true) ∧
      ∀ rand dhcp, Dhcp6MessageSafe rand c dhcp := by
  refine ⟨?_, ?_⟩
  · exact h.inv Dhcp6Ccb.Armed (fun _ op hc _ => hc.timedStep op) fun hne => absurd rfl hne
  · intro rand dhcp
    refine ⟨fun rounds hrounds => val_processMessageRd rand c dhcp hrounds,
      fun mem rounds => below_processMessageRd rounds rand c dhcp.length, ?_, ?_⟩
    · intro herror
      rcases processMessage_cases rand c dhcp with hsame | ⟨hsuccess, -⟩
      · rw [hsame]
      · rw [hsuccess] at herror
        exact absurd herror (by decide)
    · intro hsuccess
      rcases processMessage_cases rand c dhcp with hsame | ⟨-, hfits⟩
      · rw [hsame] at hsuccess
        exact absurd hsuccess (by simp)
      · exact hfits

set_option maxRecDepth 8000 in
/-- A client that solicits has its timer pending, and acts on an offer, which therefore fits. -/
theorem run_dhcp6_messages_offer :
    ([Dhcp6Op.ipv6Enabled true, .layerUp 0x10203].foldl Dhcp6Ccb.timedStep
        (.start 1 #v[2, 0, 0, 0, 0, 1])).timer.isSome = true ∧
      ∃ os, Dhcp6Fits ([Dhcp6Op.ipv6Enabled true, .layerUp 0x10203].foldl Dhcp6Ccb.timedStep
        (.start 1 #v[2, 0, 0, 0, 0, 1])) (dhcp6Offer 2 56) os := by
  have hrun := run_dhcp6_messages 1 #v[2, 0, 0, 0, 0, 1]
    (Run.of_labels _ [Dhcp6Op.ipv6Enabled true, .layerUp 0x10203] fun _ _ _ => trivial)
  exact ⟨hrun.1 (by decide), (hrun.2 0 (dhcp6Offer 2 56)).acted (by decide)⟩

end FastRG
