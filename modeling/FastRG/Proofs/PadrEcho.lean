/-
What a PADR echoes of its PADO.

`build_padr` reads the stored tags the way any reader of a tag list does, so it comes to what
`Tag.read` finds in the stored buffer: the AC-Name dropped, the values of the echoed tags copied,
every other value stepped over, and only the echoed tags counted.  The frame is cut off after as
many bytes as were counted, so it is a list of tags only if the cut falls between two of them.

What stands in the buffer is the PADO's only as far as it was copied, and the rest is left from
before, so `run_padr_echoes_iff` asks both together.
-/
import FastRG.PppoeTags
import FastRG.Proofs.PppConfigured

namespace FastRG

/-! ### What the loop comes to -/

/-- A tag whose value is copied, and which is counted. -/
def isCounted (t : Tag) : Bool := isEchoed t.type && decide (t.val ≠ [])

/-- The types that end the walk. -/
def endsWalk (type : BitVec 16) : Bool := type == endOfList || type == genericError

/-- The tags that are not left out. -/
def keptTags (ts : List Tag) : List Tag := ts.filter fun t => t.type ≠ acName

/-- What the tags found in the buffer, and the way their list ends, make of the frame. -/
def padrOf (r : List Tag × Option (BitVec 16)) (out : List (Option (BitVec 8))) (total : Nat) : Padr :=
  match r.2 with
  | none => .outside
  | some type =>
      if type = genericError then .refused
      else .built (out ++ Tag.copies isCounted (keptTags r.1))
        (total + Tag.sizes (r.1.filter isCounted))

/-- The header of a tag that was read stands where it was read. -/
theorem header_read (t0 t1 l0 l1 : BitVec 8) (val : List (BitVec 8)) (hshort : val.length < 0x10000)
    (hlen : val.length = (l0 ++ l1).toNat) :
    Tag.header ⟨t0 ++ t1, val, hshort⟩ = [t0, t1, l0, l1] := by
  have hofNat : BitVec.ofNat 16 val.length = l0 ++ l1 := by
    rw [hlen]
    exact BitVec.ofNat_toNat _ _
  unfold Tag.header
  simp only [hofNat, Tag.field_append]
  rfl

theorem padrOf_acName {t : Tag} (h : t.type = acName) (ts : List Tag) (stop : Option (BitVec 16))
    (out : List (Option (BitVec 8))) (total : Nat) :
    padrOf (t :: ts, stop) out total = padrOf (ts, stop) out total := by
  have hkept : keptTags (t :: ts) = keptTags ts := by
    simp [keptTags, h]
  have hcount : (t :: ts).filter isCounted = ts.filter isCounted := by
    have hnot : isCounted t = false := by
      unfold isCounted
      rw [h]
      rfl
    simp [hnot]
  unfold padrOf
  simp only [hkept, hcount]

theorem padrOf_cons {t : Tag} (h : t.type ≠ acName) (ts : List Tag) (stop : Option (BitVec 16))
    (out : List (Option (BitVec 8))) (total : Nat) :
    padrOf (t :: ts, stop) out total = padrOf (ts, stop) (out ++ Tag.copy isCounted t)
      (if isCounted t then t.size + total else total) := by
  have hkept : keptTags (t :: ts) = t :: keptTags ts := by
    simp [keptTags, h]
  have hcount : total + Tag.sizes ((t :: ts).filter isCounted) =
      (if isCounted t then t.size + total else total) + Tag.sizes (ts.filter isCounted) := by
    cases hc : isCounted t with
    | true =>
        rw [List.filter_cons_of_pos hc, Tag.sizes_cons, if_pos rfl]
        omega
    | false => rw [List.filter_cons_of_neg (by simp [hc]), if_neg Bool.false_ne_true]
  have hcopies : Tag.copies isCounted (t :: keptTags ts) =
      Tag.copy isCounted t ++ Tag.copies isCounted (keptTags ts) := rfl
  unfold padrOf
  simp only [hkept, hcount, hcopies, List.append_assoc]

theorem isCounted_of_echoed {type : BitVec 16} (h : isEchoed type = true) (val : List (BitVec 8))
    (hshort : val.length < 0x10000) (hlen : val.length ≠ 0) :
    isCounted ⟨type, val, hshort⟩ = true := by
  have hne : val ≠ [] := fun hv => hlen (by rw [hv]; rfl)
  simp [isCounted, h, hne]

theorem isCounted_of_not_echoed {type : BitVec 16} (val : List (BitVec 8))
    (hshort : val.length < 0x10000) (h : ¬ (isEchoed type = true ∧ val.length ≠ 0)) :
    isCounted ⟨type, val, hshort⟩ = false := by
  refine Bool.eq_false_iff.mpr fun hc => h ?_
  simpa [isCounted] using hc

/-- The loop of `build_padr` finds what any reader finds, as long as the frame has room for what is
still in the buffer. -/
theorem buildPadrN_eq (n : Nat) (cur : List (BitVec 8)) (out : List (Option (BitVec 8)))
    (total : Nat) (hroom : out.length + cur.length ≤ padrRoom) :
    buildPadrN n cur out total = padrOf (Tag.readN endsWalk n cur) out total := by
  induction n, cur using Tag.readN.induct endsWalk generalizing out total with
  | case1 n t0 t1 l0 l1 rest hstop =>
      simp only [List.length_cons] at hroom
      rw [buildPadrN, Tag.readN, if_pos hstop]
      simp only [if_neg (show ¬ padrRoom < out.length + 4 by omega), padrOf]
      by_cases hend : t0 ++ t1 = endOfList
      · rw [if_pos hend, if_neg (by rw [hend]; decide)]
        simp [Tag.copies, Tag.sizes, keptTags]
      · have hgen : t0 ++ t1 = genericError := by
          unfold endsWalk at hstop
          simpa [hend] using hstop
        rw [if_neg hend, if_pos hgen, if_pos hgen]
  | case2 n t0 t1 l0 l1 rest hstop hlen =>
      simp only [List.length_cons] at hroom
      have hend : t0 ++ t1 ≠ endOfList := fun h => hstop (by rw [h]; rfl)
      have hgen : t0 ++ t1 ≠ genericError := fun h => hstop (by rw [h]; rfl)
      rw [buildPadrN, Tag.readN, if_neg hstop, if_pos hlen]
      simp only [if_neg (show ¬ padrRoom < out.length + 4 by omega), if_neg hend, if_neg hgen,
        if_pos hlen, padrOf]
  | case3 n t0 t1 l0 l1 rest hstop hlen ih =>
      simp only [List.length_cons] at hroom
      have hend : t0 ++ t1 ≠ endOfList := fun h => hstop (by rw [h]; rfl)
      have hgen : t0 ++ t1 ≠ genericError := fun h => hstop (by rw [h]; rfl)
      have htake : (rest.take (l0 ++ l1).toNat).length = (l0 ++ l1).toNat := by
        rw [List.length_take]
        omega
      have hdrop : (rest.drop (l0 ++ l1).toNat).length = rest.length - (l0 ++ l1).toNat :=
        List.length_drop
      rw [buildPadrN, Tag.readN, if_neg hstop, if_neg hlen]
      simp only [if_neg (show ¬ padrRoom < out.length + 4 by omega), if_neg hend, if_neg hgen,
        if_neg hlen]
      by_cases hac : t0 ++ t1 = acName
      · rw [if_pos hac, padrOf_acName hac]
        exact ih out total (by omega)
      rw [if_neg hac, padrOf_cons hac]
      have hhead := header_read t0 t1 l0 l1 (rest.take (l0 ++ l1).toNat)
        (Nat.lt_of_le_of_lt (List.length_take_le _ _) (l0 ++ l1).isLt) htake
      by_cases hecho : isEchoed (t0 ++ t1) = true ∧ (l0 ++ l1).toNat ≠ 0
      · have hcount := isCounted_of_echoed hecho.1 (rest.take (l0 ++ l1).toNat)
          (Nat.lt_of_le_of_lt (List.length_take_le _ _) (l0 ++ l1).isLt) (htake.symm ▸ hecho.2)
        rw [if_pos hecho, if_neg (by omega), ih _ _ (by simp; omega)]
        unfold Tag.copy
        rw [if_pos hcount, if_pos hcount, hhead, Tag.size, htake, List.append_assoc,
          Nat.add_comm (l0 ++ l1).toNat 4]
      · have hcount := isCounted_of_not_echoed (rest.take (l0 ++ l1).toNat)
          (Nat.lt_of_le_of_lt (List.length_take_le _ _) (l0 ++ l1).isLt) (htake.symm ▸ hecho)
        rw [if_neg hecho, ih _ _ (by simp; omega)]
        unfold Tag.copy
        rw [hcount, if_neg Bool.false_ne_true, if_neg Bool.false_ne_true, hhead, htake,
          List.append_assoc]
  | case4 n cur h =>
      rw [buildPadrN, Tag.readN]
      · rfl
      · exact h
      · exact h

theorem buildPadr_eq (b : TagBuffer) :
    buildPadr b = padrOf (Tag.read endsWalk b.bytes) (serviceNameTag.bytes.map some)
      serviceNameTag.size := by
  refine buildPadrN_eq _ _ _ _ ?_
  rw [b.length_eq]
  decide

/-! ### What a PADR has to be -/

/-- The tags of a PADO: as far as its length field says, up to the end of the list. -/
def padoTags (pkt : List (BitVec 8)) : List Tag :=
  (Tag.read (fun type => type == endOfList) ((framePayload pkt).take (be16At pkt 22).toNat)).1

/-- The PADR answers the PADO: the walk stays inside, and if a frame is built, it is whole tags of
the length it says, within the buffer, among them every tag of the PADO that is to be echoed, and
none but those of the PADO and the empty Service-Name. -/
structure Echoes (pkt : List (BitVec 8)) (padr : Padr) : Prop where
  inside : padr ≠ .outside
  tags : ∀ out total, padr = .built out total → ∃ ts, out.take total = Tag.written ts ∧
    total = Tag.sizes ts ∧ 24 + total ≤ pppMsgBufLen ∧
    (∀ t ∈ padoTags pkt, isEchoed t.type = true → t ∈ ts) ∧
    ∀ t ∈ ts, t = serviceNameTag ∨ t ∈ padoTags pkt

/-- A PADO that was taken, and what it found in the stored buffer and behind its own end. -/
structure Pado where
  pkt : List (BitVec 8)
  slack : Nat → BitVec 8
  stored : TagBuffer

/-- The stored buffer once the PADO was taken. -/
def Pado.buffer (p : Pado) : TagBuffer := storeTags (framePayload p.pkt) p.slack p.stored

/-- The tags that stand in the buffer then, and how their list ends. -/
def Pado.found (p : Pado) : List Tag × Option (BitVec 16) := Tag.read endsWalk p.buffer.bytes

/-- What the PADO has copied and what was left from before make a list that ends inside the buffer.
If it does not end with an error, then of the tags that are not AC-Names the first ones have the
size of all the tags that are counted; these first ones have no value that is stepped over, are the
PADO's, and are all of the PADO's that are to be echoed. -/
def Pado.Completed (p : Pado) : Prop :=
  p.found.2 = some genericError ∨
    p.found.2 = some endOfList ∧ ∃ front back, keptTags p.found.1 = front ++ back ∧
      Tag.sizes front = Tag.sizes (p.found.1.filter isCounted) ∧
      (∀ t ∈ front, Tag.Whole isCounted t ∧ (t = serviceNameTag ∨ t ∈ padoTags p.pkt)) ∧
      ∀ t ∈ padoTags p.pkt, isEchoed t.type = true → t ∈ front

/-! ### When it is -/

/-- A list that is read to its end was ended by one of the types that end it. -/
theorem readN_stop {stops : BitVec 16 → Bool} (n : Nat) (bs : List (BitVec 8)) {type : BitVec 16}
    (h : (Tag.readN stops n bs).2 = some type) : stops type = true := by
  induction n, bs using Tag.readN.induct stops with
  | case1 n t0 t1 l0 l1 rest hstop =>
      rw [Tag.readN, if_pos hstop] at h
      rw [← Option.some.inj h]
      exact hstop
  | case2 n t0 t1 l0 l1 rest hstop hlen =>
      rw [Tag.readN, if_neg hstop, if_pos hlen] at h
      cases h
  | case3 n t0 t1 l0 l1 rest hstop hlen ih =>
      rw [Tag.readN, if_neg hstop, if_neg hlen] at h
      exact ih h
  | case4 n bs hshort =>
      rw [Tag.readN] at h
      · cases h
      · exact hshort

/-- A list of tags takes no more room than the bytes it was read from. -/
theorem sizes_readN (stops : BitVec 16 → Bool) (n : Nat) (bs : List (BitVec 8)) :
    Tag.sizes (Tag.readN stops n bs).1 ≤ bs.length := by
  induction n, bs using Tag.readN.induct stops with
  | case1 n t0 t1 l0 l1 rest hstop =>
      rw [Tag.readN, if_pos hstop]
      exact Nat.zero_le _
  | case2 n t0 t1 l0 l1 rest hstop hlen =>
      rw [Tag.readN, if_neg hstop, if_pos hlen]
      exact Nat.zero_le _
  | case3 n t0 t1 l0 l1 rest hstop hlen ih =>
      rw [Tag.readN, if_neg hstop, if_neg hlen]
      simp only [Tag.sizes_cons, Tag.size, List.length_take, List.length_cons]
      rw [List.length_drop] at ih
      omega
  | case4 n bs hshort =>
      rw [Tag.readN]
      · exact Nat.zero_le _
      · exact hshort

theorem sizes_filter_le (f : Tag → Bool) (ts : List Tag) : Tag.sizes (ts.filter f) ≤ Tag.sizes ts := by
  induction ts with
  | nil => exact Nat.le_refl _
  | cons t ts ih =>
      cases hf : f t with
      | true =>
          rw [List.filter_cons_of_pos hf, Tag.sizes_cons, Tag.sizes_cons]
          omega
      | false =>
          rw [List.filter_cons_of_neg (by simp [hf]), Tag.sizes_cons]
          omega

/-- A counted tag is no AC-Name, so it is among those that are kept. -/
theorem sizes_counted_le (ts : List Tag) :
    Tag.sizes (ts.filter isCounted) ≤ Tag.sizes (keptTags ts) := by
  have hsub : ts.filter isCounted = (keptTags ts).filter isCounted := by
    unfold keptTags
    rw [List.filter_filter]
    refine List.filter_congr fun t _ => ?_
    cases hc : isCounted t with
    | false => rfl
    | true =>
        have hne : t.type ≠ acName := by
          intro hac
          unfold isCounted at hc
          rw [hac] at hc
          exact Bool.noConfusion hc
        simp [hne]
  rw [hsub]
  exact sizes_filter_le _ _

/-- The frame as copies: the Service-Name is one without a gap. -/
theorem copies_serviceName (ts : List Tag) :
    serviceNameTag.bytes.map some ++ Tag.copies isCounted ts =
      Tag.copies isCounted (serviceNameTag :: ts) := by
  have hwhole : Tag.copy isCounted serviceNameTag = serviceNameTag.bytes.map some :=
    Tag.copy_of_whole (Or.inr rfl)
  rw [← hwhole]
  rfl

/-- A frame that is built has room for all that is counted. -/
theorem Pado.room (p : Pado) :
    24 + (serviceNameTag.size + Tag.sizes (p.found.1.filter isCounted)) ≤ pppMsgBufLen := by
  have hread : Tag.sizes p.found.1 ≤ p.buffer.bytes.length := sizes_readN endsWalk _ _
  have hfilter := sizes_filter_le isCounted p.found.1
  rw [p.buffer.length_eq] at hread
  have hsize : serviceNameTag.size = 4 := rfl
  unfold pppoeTagDefaultMaxLen at hread
  unfold pppMsgBufLen
  omega

/-- The list ends with `END_OF_LIST`, so a frame is built. -/
theorem echoes_built_iff (p : Pado) :
    Echoes p.pkt (.built (serviceNameTag.bytes.map some ++ Tag.copies isCounted (keptTags p.found.1))
        (serviceNameTag.size + Tag.sizes (p.found.1.filter isCounted))) ↔
      ∃ front back, keptTags p.found.1 = front ++ back ∧
        Tag.sizes front = Tag.sizes (p.found.1.filter isCounted) ∧
        (∀ t ∈ front, Tag.Whole isCounted t ∧ (t = serviceNameTag ∨ t ∈ padoTags p.pkt)) ∧
        ∀ t ∈ padoTags p.pkt, isEchoed t.type = true → t ∈ front := by
  rw [copies_serviceName]
  refine ⟨fun h => ?_, fun h => ?_⟩
  · obtain ⟨ts, htake, htotal, -, hecho, hfrom⟩ := h.tags _ _ rfl
    have hle : Tag.sizes ts ≤ Tag.sizes (serviceNameTag :: keptTags p.found.1) := by
      have hcount := sizes_counted_le p.found.1
      rw [← htotal, Tag.sizes_cons]
      omega
    rw [htotal] at htake
    obtain ⟨⟨back, hback⟩, hwhole⟩ := Tag.of_copies_take hle htake
    cases ts with
    | nil =>
        have hzero : Tag.sizes ([] : List Tag) = 0 := rfl
        have hsize : serviceNameTag.size = 4 := rfl
        omega
    | cons q front =>
        obtain ⟨rfl, hkept⟩ := List.cons.inj hback
        rw [Tag.sizes_cons] at htotal
        refine ⟨front, back, hkept, by omega, ?_, ?_⟩
        · intro t ht
          exact ⟨hwhole t (List.mem_cons_of_mem _ ht), hfrom t (List.mem_cons_of_mem _ ht)⟩
        · intro t ht he
          rcases List.mem_cons.mp (hecho t ht he) with hsn | hin
          · rw [hsn] at he
            exact absurd he (by decide)
          · exact hin
  · obtain ⟨front, back, hkept, hsizes, hfront, hecho⟩ := h
    refine ⟨Padr.noConfusion, ?_⟩
    intro out total hbuilt
    obtain ⟨rfl, rfl⟩ := Padr.built.inj hbuilt
    refine ⟨serviceNameTag :: front, ?_, ?_, p.room, ?_, ?_⟩
    · have hall : ∀ t ∈ serviceNameTag :: front, Tag.Whole isCounted t := by
        intro t ht
        rcases List.mem_cons.mp ht with rfl | ht
        · exact Or.inr rfl
        · exact (hfront t ht).1
      rw [hkept, ← hsizes, ← Tag.sizes_cons, ← List.cons_append]
      exact Tag.copies_take hall
    · rw [Tag.sizes_cons, hsizes]
    · intro t ht he
      exact List.mem_cons_of_mem _ (hecho t ht he)
    · intro t ht
      rcases List.mem_cons.mp ht with rfl | ht
      · exact Or.inl rfl
      · exact (hfront t ht).2

/-- A PADR answers its PADO exactly when what was left in the buffer completes what was copied. -/
theorem echoes_iff_completed (p : Pado) : Echoes p.pkt (buildPadr p.buffer) ↔ p.Completed := by
  rw [buildPadr_eq]
  show Echoes p.pkt (padrOf p.found _ _) ↔ _
  unfold Pado.Completed
  cases hstop : p.found.2 with
  | none =>
      have hout : padrOf p.found (serviceNameTag.bytes.map some) serviceNameTag.size = .outside := by
        simp only [padrOf, hstop]
      rw [hout]
      exact ⟨fun h => absurd rfl h.inside, fun h => by rcases h with h | h <;> simp at h⟩
  | some type =>
      have hends : endsWalk type = true := readN_stop _ _ hstop
      by_cases hgen : type = genericError
      · have hout : padrOf p.found (serviceNameTag.bytes.map some) serviceNameTag.size = .refused := by
          simp only [padrOf, hstop, if_pos hgen]
        rw [hout]
        refine ⟨fun _ => Or.inl (by rw [hgen]), fun _ => ⟨Padr.noConfusion, ?_⟩⟩
        intro out total hbuilt
        cases hbuilt
      · have hend : type = endOfList := by
          unfold endsWalk at hends
          simpa [hgen] using hends
        have hout : padrOf p.found (serviceNameTag.bytes.map some) serviceNameTag.size =
            .built (serviceNameTag.bytes.map some ++ Tag.copies isCounted (keptTags p.found.1))
              (serviceNameTag.size + Tag.sizes (p.found.1.filter isCounted)) := by
          simp only [padrOf, hstop, if_neg hgen]
        rw [hout, echoes_built_iff, hend]
        refine ⟨fun h => Or.inr ⟨rfl, h⟩, fun h => ?_⟩
        rcases h with h | h
        · exact absurd (Option.some.inj h) (by decide)
        · exact h.2

/-! ### Retransmissions -/

/-- Discovery, and the PADO that was taken last. -/
structure Answering where
  disc : Discovery
  pado : Option Pado

/-- The PADO that was taken last, after a step. -/
def padoAfter (s : Answering) (slack : Nat → BitVec 8) : PppLabel → Option Pado
  | .recv pkt _ _ =>
      if takesPado pkt s.disc.ccb then some ⟨pkt, slack, s.disc.tags⟩ else s.pado
  | _ => s.pado

def answeringStep (mac : BitVec 48) (s : Answering) (l : PppLabel × (Nat → BitVec 8)) : Answering :=
  ⟨discoveryStep mac s.disc l, padoAfter s l.2 l.1⟩

/-- While a PADR waits for its PADS, the buffer is as the PADO it answers has left it. -/
def Answering.Waits (s : Answering) : Prop :=
  s.disc.ccb.pppoe = some .padr → ∃ p, s.pado = some p ∧ s.disc.tags = p.buffer

/-- A PADO that is not taken changes nothing. -/
theorem pado_not_taken {pkt : List (BitVec 8)} {s : PppCcb} (hdis : frameNextProto pkt = ethPPppDis)
    (hcode : framePppoeCode pkt = padoCode) (hnot : takesPado pkt s = false) (env : PppEnv)
    (d : Dhcp6) : (pppProcess env pkt d s).2 = s := by
  rw [pppProcess_offer ⟨hdis, Or.inl hcode⟩]
  by_cases hbad : pkt.length < 24 ∨ ethJumbo < pkt.length
  · rw [if_pos hbad]
  rw [if_neg hbad, decodePppoe_pado hcode]
  obtain ⟨hlen, hmax⟩ := not_or.mp hbad
  have hactive : s.pppoePhase.active = true := by
    simpa [takesPado, isDiscovery, hdis, hcode, Nat.not_lt.mp hlen, Nat.not_lt.mp hmax] using hnot
  rw [if_pos hactive]

/-- A PADT that is taken stops discovery. -/
theorem pppoe_padt {pkt : List (BitVec 8)} {s : PppCcb} (h : takesPadt pkt s = true) (env : PppEnv)
    (d : Dhcp6) : (pppProcess env pkt d s).2.pppoe = none := by
  simp only [takesPadt, isDiscovery, Bool.and_eq_true, decide_eq_true_eq, beq_iff_eq,
    bne_iff_ne] at h
  obtain ⟨⟨⟨⟨⟨hlen, hmax⟩, hdis⟩, hcode⟩, hlive⟩, hsid⟩ := h
  have hses : frameNextProto pkt ≠ ethPPppSes := by
    rw [hdis]
    decide
  have hnames : ¬ (24 ≤ pkt.length ∧ namesSession pkt = true ∧
      (s.sessionId = 0 ∨ frameSessionId pkt ≠ s.sessionId)) :=
    fun h => h.2.2.elim hlive fun hne => hne hsid
  have hdata : ¬ (26 ≤ pkt.length ∧ frameNextProto pkt = ethPPppSes ∧
      be16At (framePayload pkt) 0 = pppIpv6Protocol) := fun h => hses h.2.1
  rw [pppProcess_decoded env d hnames hdata]
  unfold pppDecodeFrame
  rw [if_neg (Nat.not_lt.mpr hmax), if_neg (Nat.not_lt.mpr hlen), if_pos hdis]
  show (decodePppoe env pkt (if framePppoeCode pkt = padsCode then s.enterPhase lcpPhase else s)).pppoe
    = none
  unfold decodePppoe
  simp only [hcode, if_neg (show padtCode ≠ padoCode by decide),
    if_neg (show padtCode ≠ padsCode by decide), if_true]
  rfl

theorem tagsAfter_recv (s : Discovery) (slack : Nat → BitVec 8) (pkt : List (BitVec 8))
    (dns : Status) (d : Dhcp6) :
    tagsAfter s slack (.recv pkt dns d) =
      if takesPado pkt s.ccb || takesPadt pkt s.ccb then storeTags (framePayload pkt) slack s.tags
      else s.tags := rfl

theorem tags_taken {s : Answering} {pkt : List (BitVec 8)} (h : takesPado pkt s.disc.ccb = true)
    (mac : BitVec 48) (slack : Nat → BitVec 8) (dns : Status) (d : Dhcp6) :
    (answeringStep mac s (.recv pkt dns d, slack)).disc.tags =
      Pado.buffer ⟨pkt, slack, s.disc.tags⟩ := by
  show tagsAfter s.disc slack (.recv pkt dns d) = _
  rw [tagsAfter_recv, h, Bool.true_or, if_pos rfl]
  rfl

theorem Onward.padr {s t : PppCcb} (h : Onward s t) (ht : t.pppoe = some .padr) :
    s.pppoe = some .padr := by
  rcases h.pppoe with hp | hp
  · rw [← hp]
    exact ht
  · rw [hp] at ht
    cases ht

/-- Nothing but a PADO that is taken has a PADR wait for its PADS. -/
theorem pppoe_pppStep (mac : BitVec 48) (s : PppCcb) {l : PppLabel}
    (hnot : ∀ pkt dns d, l = .recv pkt dns d → takesPado pkt s = false)
    (h : (pppStep mac s l).pppoe = some .padr) : s.pppoe = some .padr := by
  cases hsess : l.ofSession with
  | false =>
      cases l with
      | applyConfig isUpdate enable =>
          have happly : (pppStep mac s (.applyConfig isUpdate enable)).pppoe =
              (if isUpdate = false ∨ s.phase = notConfigured then pppInitConfigByUser true s
                else s).pppoe := by
            show PppCcb.pppoe (PppCcb.ipv6DpGateUpdate _) = _
            unfold PppCcb.ipv6DpGateUpdate
            rfl
          rw [happly] at h
          split at h
          · cases h
          · exact h
      | disableCcb => cases h
      | _ => exact Bool.noConfusion hsess
  | true =>
      cases hstart : l.startsDiscovery with
      | false => exact (onward_pppStep mac s hsess hstart).padr h
      | true =>
          cases l with
          | connect =>
              simp only [pppStep, pppConnect] at h
              split at h
              · exact h
              · cases h
          | recv pkt dns d =>
              simp only [PppLabel.startsDiscovery, Bool.and_eq_true, beq_iff_eq] at hstart
              simp only [pppStep, pado_not_taken hstart.1 hstart.2 (hnot pkt dns d rfl)] at h
              exact h
          | _ => exact Bool.noConfusion hstart

/-- Every step keeps it: a PADO that is taken starts the wait, and all that writes to the buffer
besides it ends it. -/
theorem waits_step (mac : BitVec 48) {s : Answering} (hs : s.Waits)
    (l : PppLabel × (Nat → BitVec 8)) : (answeringStep mac s l).Waits := by
  obtain ⟨l, slack⟩ := l
  intro hpadr
  by_cases htaken : ∃ pkt dns d, l = .recv pkt dns d ∧ takesPado pkt s.disc.ccb = true
  · obtain ⟨pkt, dns, d, rfl, htakes⟩ := htaken
    exact ⟨⟨pkt, slack, s.disc.tags⟩, if_pos htakes, tags_taken htakes mac slack dns d⟩
  have hnot : ∀ pkt dns d, l = .recv pkt dns d → takesPado pkt s.disc.ccb = false :=
    fun pkt dns d hl => Bool.eq_false_iff.mpr fun htakes => htaken ⟨pkt, dns, d, hl, htakes⟩
  obtain ⟨p, hp, htags⟩ := hs (pppoe_pppStep mac s.disc.ccb hnot hpadr)
  cases l with
  | recv pkt dns d =>
      have hno := hnot pkt dns d rfl
      refine ⟨p, (if_neg (by rw [hno]; exact Bool.false_ne_true)).trans hp, ?_⟩
      show tagsAfter s.disc slack (.recv pkt dns d) = p.buffer
      rw [tagsAfter_recv, hno, Bool.false_or]
      cases hpadt : takesPadt pkt s.disc.ccb with
      | true =>
          have hoff : (answeringStep mac s (.recv pkt dns d, slack)).disc.ccb.pppoe = none :=
            pppoe_padt hpadt _ d
          rw [hoff] at hpadr
          cases hpadr
      | false =>
          rw [if_neg Bool.false_ne_true]
          exact htags
  | _ => exact ⟨p, hp, htags⟩

/-- A PADR that is sent is built from what the PADO taken last has left. -/
theorem sent_from_pado (mac : BitVec 48) {s : Answering} (hs : s.Waits)
    {l : PppLabel × (Nat → BitVec 8)} (hsend : sendsPadr s.disc.ccb l.1 = true) :
    ∃ p, (answeringStep mac s l).pado = some p ∧ (answeringStep mac s l).disc.tags = p.buffer := by
  obtain ⟨l, slack⟩ := l
  cases l with
  | recv pkt dns d =>
      have htakes : takesPado pkt s.disc.ccb = true := hsend
      exact ⟨⟨pkt, slack, s.disc.tags⟩, if_pos htakes, tags_taken htakes mac slack dns d⟩
  | pppoeTimer =>
      simp only [sendsPadr, Bool.and_eq_true, beq_iff_eq] at hsend
      exact hs hsend.1
  | _ => exact Bool.noConfusion hsend

/--
**When a PADR answers its PADO.**  In every run, from whatever stands in the buffer at first, a PADR
that is sent, at once or again, holds the PADO's tags and nothing else exactly when the bytes that
were left in the buffer complete those of the PADO that were copied.
-/
theorem run_padr_echoes_iff (mac : BitVec 48) (rand : Nat → BitVec 32) (tags : TagBuffer)
    (ls : List (PppLabel × (Nat → BitVec 8))) (s : Answering)
    (h : Run (answeringStep mac) (fun _ _ => True) ⟨⟨pppInit rand, tags⟩, none⟩ ls s)
    (l : PppLabel × (Nat → BitVec 8)) (hsend : sendsPadr s.disc.ccb l.1 = true) :
    ∃ p, (answeringStep mac s l).pado = some p ∧
      (Echoes p.pkt (buildPadr (answeringStep mac s l).disc.tags) ↔ p.Completed) := by
  have hstart : Answering.Waits ⟨⟨pppInit rand, tags⟩, none⟩ := fun hp => by cases hp
  have hwaits : s.Waits := h.inv Answering.Waits (fun s l hs _ => waits_step mac hs l) hstart
  obtain ⟨p, hp, htags⟩ := sent_from_pado mac hwaits hsend
  refine ⟨p, hp, ?_⟩
  rw [htags]
  exact echoes_iff_completed p

/-- A buffer that was cleared. -/
def zeroTags : TagBuffer := ⟨List.replicate pppoeTagDefaultMaxLen 0, rfl⟩

/-- A PADO of these tags. -/
def padoOf (ts : List Tag) : PppLabel × (Nat → BitVec 8) :=
  (.recv (wireFrame ethPPppDis padoCode 0 (ts.flatMap Tag.bytes)) .success ⟨false, false, false⟩,
    fun _ => 0)

/-- A subscriber who has dialed. -/
def dialedAnswering : Answering :=
  ⟨⟨(pppConnect (applyHsiConfig false false (pppInit fun _ => 0))).2, zeroTags⟩, none⟩

theorem run_dialedAnswering :
    Run (answeringStep 0) (fun _ _ => True) ⟨⟨pppInit fun _ => 0, zeroTags⟩, none⟩
      [(.applyConfig false false, fun _ => 0), (.connect, fun _ => 0)] dialedAnswering :=
  Run.of_labels _ _ fun _ _ _ => trivial

/-- A cookie that ends with as many zeros as are not copied of it. -/
def paddedCookie : Tag := ⟨acCookie, [1, 2, 3, 4, 0, 0, 0, 0], by decide⟩

set_option maxRecDepth 20000 in
/-- A PADR that is sent again and echoes the cookie: the buffer was cleared, and what is not copied
is zero. -/
theorem run_padr_echoes_iff_padded :
    ∃ s, Run (answeringStep 0) (fun _ _ => True) ⟨⟨pppInit fun _ => 0, zeroTags⟩, none⟩
        ([(.applyConfig false false, fun _ => 0), (.connect, fun _ => 0)] ++ [padoOf [paddedCookie]]) s ∧
      sendsPadr s.disc.ccb .pppoeTimer = true ∧
      ∃ p, (answeringStep 0 s (.pppoeTimer, fun _ => 0)).pado = some p ∧
        Echoes p.pkt (buildPadr (answeringStep 0 s (.pppoeTimer, fun _ => 0)).disc.tags) ∧
        paddedCookie ∈ padoTags p.pkt := by
  have hrun := run_dialedAnswering.append (Run.single (padoOf [paddedCookie]) trivial)
  refine ⟨_, hrun, rfl, ?_⟩
  obtain ⟨p, hp, hiff⟩ := run_padr_echoes_iff 0 (fun _ => 0) zeroTags _ _ hrun
    (.pppoeTimer, fun _ => 0) rfl
  refine ⟨p, hp, hiff.mpr ?_, ?_⟩
  all_goals rw [← Option.some.inj hp]
  · refine Or.inr ⟨rfl, [paddedCookie], [], rfl, rfl, ?_, ?_⟩
    · intro t ht
      rw [List.mem_singleton.mp ht]
      exact ⟨Or.inl rfl, Or.inr (List.mem_singleton.mpr rfl)⟩
    · intro t ht _
      exact ht
  · exact List.mem_singleton.mpr rfl

/-- A cookie behind an empty Service-Name. -/
def plainCookie : Tag := ⟨acCookie, [1, 2, 3, 4], by decide⟩

set_option maxRecDepth 20000 in
/-- The Service-Name of the PADO is empty, so nothing is copied, and its cookie is not echoed. -/
theorem padr_without_cookie :
    ¬ ∀ (mac : BitVec 48) (rand : Nat → BitVec 32) (tags : TagBuffer)
      (ls : List (PppLabel × (Nat → BitVec 8))) (s : Answering),
      Run (answeringStep mac) (fun _ _ => True) ⟨⟨pppInit rand, tags⟩, none⟩ ls s →
      ∀ l : PppLabel × (Nat → BitVec 8), sendsPadr s.disc.ccb l.1 = true →
        ∃ p, (answeringStep mac s l).pado = some p ∧
          Echoes p.pkt (buildPadr (answeringStep mac s l).disc.tags) := by
  intro h
  obtain ⟨p, hp, hecho⟩ := h 0 (fun _ => 0) zeroTags _ _ run_dialedAnswering
    (padoOf [serviceNameTag, plainCookie]) rfl
  have hbuilt : buildPadr (answeringStep 0 dialedAnswering
      (padoOf [serviceNameTag, plainCookie])).disc.tags = .built (serviceNameTag.bytes.map some) 4 :=
    rfl
  obtain ⟨ts, -, htotal, -, hall, -⟩ := hecho.tags _ _ hbuilt
  rw [← Option.some.inj hp] at hall
  have hcookie : plainCookie ∈ ts :=
    hall plainCookie (List.mem_cons_of_mem _ (List.mem_singleton.mpr rfl)) rfl
  have hsize : 8 ≤ Tag.sizes ts := Tag.size_le_sizes hcookie
  omega

end FastRG
