/-
What the DNS parser looks at.

Each parser is a value and the offsets of the bytes it read on the way.  The values are those of
the parser that the proxy's model uses (`dnsParseMessage_summary`), and every offset lies in the
message, whatever the message holds (`below_dnsParseMessageRd`).
-/
import FastRG.DnsMessage

namespace FastRG

/-! ### Values -/

theorem val_dnsParseNameFromRd (pkt : List (BitVec 8))
    (offset nameMax fuel pos consumed jumps : Nat) (labels : List (List (BitVec 8))) :
    (dnsParseNameFromRd pkt offset nameMax fuel pos consumed jumps labels).val =
      dnsParseNameFrom pkt offset nameMax fuel pos consumed jumps labels := by
  induction fuel generalizing pos consumed jumps labels with
  | zero => rfl
  | succ fuel ih =>
      unfold dnsParseNameFromRd dnsParseNameFrom
      by_cases hpos : pkt.length ≤ pos
      · rw [if_pos hpos, if_pos hpos]
        rfl
      rw [if_neg hpos, if_neg hpos, Rd.val_bind, val_u8]
      dsimp only
      rw [Rd.val_ite]
      refine if_congr Iff.rfl rfl ?_
      rw [Rd.val_ite]
      refine if_congr Iff.rfl ?_ ?_
      · rw [Rd.val_ite]
        refine if_congr Iff.rfl rfl ?_
        rw [Rd.val_bind, val_u8, Rd.val_ite]
        refine if_congr Iff.rfl rfl ?_
        rw [Rd.val_ite]
        exact if_congr Iff.rfl rfl (ih _ _ _ _)
      · rw [Rd.val_ite]
        refine if_congr Iff.rfl rfl ?_
        by_cases hin : pkt.length < pos + 1 + (pkt.getD pos 0).toNat
        · rw [if_pos hin, if_pos hin]
          rfl
        rw [if_neg hin, if_neg hin, Rd.val_ite]
        refine if_congr Iff.rfl rfl ?_
        rw [Rd.val_bind, val_bytes (Nat.le_of_not_lt hin)]
        exact ih _ _ _ _

theorem val_dnsParseNameRd (pkt : List (BitVec 8)) (offset : Nat) :
    (dnsParseNameRd pkt offset (dnsMaxDomainLen + 1)).val = dnsParseName pkt offset := by
  unfold dnsParseNameRd dnsParseName
  rw [if_neg (by decide), Rd.val_andThen, val_dnsParseNameFromRd]
  rfl

theorem val_parseQuestionRd (pkt : List (BitVec 8)) (offset : Nat) :
    (parseQuestionRd pkt offset).val = parseQuestion pkt offset := by
  unfold parseQuestionRd parseQuestion
  rw [Rd.val_andThen, val_dnsParseNameRd]
  simp only [Rd.val_ite, Rd.val_bind, Rd.val_pure]
  rfl

/-- The record whose fixed part is at `pos`, after its name. -/
def dnsRecordAt (pkt : List (BitVec 8)) (labels : List (List (BitVec 8))) (pos : Nat) : DnsRecord :=
  let rdlength := be16At pkt (pos + 8)
  ⟨labels, be16At pkt pos, be16At pkt (pos + 2), be32At pkt (pos + 4), rdlength,
    if rdlength.toNat ≤ dnsRdataLen then (pkt.drop (pos + 10)).take rdlength.toNat else []⟩

theorem val_parseRrRd (pkt : List (BitVec 8)) (offset : Nat) :
    (parseRrRd pkt offset).val =
      (dnsParseName pkt offset).bind fun name =>
        let pos := offset + name.consumed
        let next := pos + 10 + (be16At pkt (pos + 8)).toNat
        if pkt.length < pos + 10 then none
        else if pkt.length < next then none
        else some (dnsRecordAt pkt name.labels pos, next) := by
  unfold parseRrRd
  rw [Rd.val_andThen, val_dnsParseNameRd]
  cases dnsParseName pkt offset with
  | none => rfl
  | some name =>
      simp only [Option.bind_some]
      rw [Rd.val_ite]
      refine if_congr Iff.rfl rfl ?_
      rw [Rd.val_bind, val_be16, Rd.val_bind, val_be16, Rd.val_bind, val_be32, Rd.val_bind,
        val_be16]
      by_cases hin : pkt.length <
          offset + name.consumed + 10 + (be16At pkt (offset + name.consumed + 8)).toNat
      · rw [if_pos hin, if_pos hin]
        rfl
      rw [if_neg hin, if_neg hin, Rd.val_bind]
      unfold rdataRd
      rw [Rd.val_ite, val_bytes (Nat.le_of_not_lt hin)]
      rfl

/-- The questions of a response: the first one, and where the last one ends. -/
theorem val_parseQuestionsRd (pkt : List (BitVec 8)) (n pos : Nat) :
    (parseQuestionsRd pkt n pos).val.map Prod.snd = skipQuestions pkt n pos := by
  induction n generalizing pos with
  | zero => rfl
  | succ n ih =>
      unfold parseQuestionsRd skipQuestions
      rw [Rd.val_andThen, val_parseQuestionRd]
      cases parseQuestion pkt pos with
      | none => rfl
      | some first =>
          show ((parseQuestionsRd pkt n first.2).andThen fun rest =>
            pure (some (first.1 :: rest.1, rest.2))).val.map Prod.snd = skipQuestions pkt n first.2
          rw [Rd.val_andThen, ← ih]
          cases (parseQuestionsRd pkt n first.2).val with
          | none => rfl
          | some rest => rfl

theorem val_parseQuestionsRd_head (data : List (BitVec 8)) (n : Nat) :
    (parseQuestionsRd data n dnsHdrLen).val.map (fun r => (r.1.head?, r.2)) =
      parseQuestions data n := by
  cases n with
  | zero => rfl
  | succ n =>
      unfold parseQuestionsRd parseQuestions
      rw [Rd.val_andThen, val_parseQuestionRd]
      cases parseQuestion data dnsHdrLen with
      | none => rfl
      | some first =>
          show ((parseQuestionsRd data n first.2).andThen fun rest =>
              pure (some (first.1 :: rest.1, rest.2))).val.map (fun r => (r.1.head?, r.2)) =
            (skipQuestions data n first.2).bind fun last => some (some first.1, last)
          rw [Rd.val_andThen, ← val_parseQuestionsRd]
          cases (parseQuestionsRd data n first.2).val with
          | none => rfl
          | some rest => rfl

/-- The records, as far as the lowest TTL goes. -/
theorem val_parseRrsRd (pkt : List (BitVec 8)) (n pos minTtl : Nat) :
    (parseRrsRd pkt n pos).val.map (fun r => lowestTtl minTtl r.1) =
      parseRrSection pkt n pos minTtl := by
  induction n generalizing pos minTtl with
  | zero => rfl
  | succ n ih =>
      unfold parseRrsRd parseRrSection
      by_cases hend : pkt.length ≤ pos
      · rw [if_pos hend, if_pos hend]
        rfl
      · rw [if_neg hend, if_neg hend, Rd.val_andThen]
        rw [val_parseRrRd]
        cases dnsParseName pkt pos with
        | none => rfl
        | some name =>
            simp only [Option.bind_some, Option.bind_eq_bind]
            by_cases hfixed : pkt.length < pos + name.consumed + 10
            · rw [if_pos hfixed, if_pos hfixed]
              rfl
            rw [if_neg hfixed, if_neg hfixed]
            by_cases hdata : pkt.length <
                pos + name.consumed + 10 + (be16At pkt (pos + name.consumed + 8)).toNat
            · rw [if_pos hdata, if_pos hdata]
              rfl
            rw [if_neg hdata, if_neg hdata, Option.bind_some, Rd.val_andThen, ← ih]
            cases (parseRrsRd pkt n _).val with
            | none => rfl
            | some rest => rfl

/-- **The two parsers of a response are one.** -/
theorem dnsParseMessage_summary (data : List (BitVec 8)) :
    (dnsParseMessage data).map DnsMessage.toDnsResponse = dnsParseResponse data := by
  unfold dnsParseMessage dnsParseMessageRd dnsParseResponse
  by_cases hshort : data.length < dnsHdrLen
  · rw [if_pos hshort, if_pos hshort]
    rfl
  rw [if_neg hshort, if_neg hshort]
  rw [Rd.val_bind, val_be16, Rd.val_bind, val_be16, Rd.val_bind, val_be16, Rd.val_bind, val_be16,
    Rd.val_bind, Rd.val_bind, Rd.val_ite]
  by_cases hqr : be16At data 2 &&& dnsFlagQr = 0
  · have hqr' : (dnsHeader data).flags &&& dnsFlagQr = 0 := hqr
    rw [if_pos hqr, if_pos hqr']
    rfl
  have hqr' : ¬ (dnsHeader data).flags &&& dnsFlagQr = 0 := hqr
  rw [if_neg hqr, if_neg hqr', Rd.val_andThen]
  show _ = (parseQuestions data (be16At data 4).toNat).bind _
  rw [← val_parseQuestionsRd_head]
  cases (parseQuestionsRd data (be16At data 4).toNat dnsHdrLen).val with
  | none => rfl
  | some questions =>
      simp only [Option.bind_some, Option.map_some, Option.bind_eq_bind]
      rw [Rd.val_andThen]
      show _ = (parseRrSection data (be16At data 6).toNat questions.2 0).bind _
      rw [← val_parseRrsRd]
      cases (parseRrsRd data (be16At data 6).toNat questions.2).val with
      | none => rfl
      | some records => rfl

/-! ### Offsets -/

theorem below_dnsParseNameFromRd (pkt : List (BitVec 8))
    (offset nameMax fuel pos consumed jumps : Nat) (labels : List (List (BitVec 8))) :
    (dnsParseNameFromRd pkt offset nameMax fuel pos consumed jumps labels).Below pkt.length := by
  induction fuel generalizing pos consumed jumps labels with
  | zero => exact Rd.below_pure _
  | succ fuel ih =>
      unfold dnsParseNameFromRd
      refine Rd.below_ite (fun _ => Rd.below_pure _) fun hpos => ?_
      refine Rd.below_bind (Rd.below_u8 (Nat.lt_of_not_le hpos)) ?_
      refine Rd.below_ite (fun _ => Rd.below_pure _) fun _ => ?_
      refine Rd.below_ite (fun _ => ?_) fun _ => ?_
      · -- A pointer: its second byte is read after the check that it is there.
        refine Rd.below_ite (fun _ => Rd.below_pure _) fun hlow => ?_
        refine Rd.below_bind (Rd.below_u8 (Nat.lt_of_not_le hlow)) ?_
        refine Rd.below_ite (fun _ => Rd.below_pure _) fun _ => ?_
        exact Rd.below_ite (fun _ => Rd.below_pure _) fun _ => ih _ _ _ _
      · refine Rd.below_ite (fun _ => Rd.below_pure _) fun _ => ?_
        refine Rd.below_ite (fun _ => Rd.below_pure _) fun hin => ?_
        refine Rd.below_ite (fun _ => Rd.below_pure _) fun _ => ?_
        exact Rd.below_bind (Rd.below_bytes (Nat.le_of_not_lt hin)) (ih _ _ _ _)

theorem below_dnsParseNameRd (pkt : List (BitVec 8)) (offset nameMax : Nat) :
    (dnsParseNameRd pkt offset nameMax).Below pkt.length := by
  unfold dnsParseNameRd
  refine Rd.below_ite (fun _ => Rd.below_pure _) fun _ => ?_
  exact Rd.below_andThen (below_dnsParseNameFromRd _ _ _ _ _ _ _ _) fun _ _ => Rd.below_pure _

theorem below_parseQuestionRd (pkt : List (BitVec 8)) (offset : Nat) :
    (parseQuestionRd pkt offset).Below pkt.length := by
  unfold parseQuestionRd
  refine Rd.below_andThen (below_dnsParseNameRd _ _ _) fun name _ => ?_
  refine Rd.below_ite (fun _ => Rd.below_pure _) fun hin => ?_
  refine Rd.below_bind (Rd.below_be16 (by omega)) ?_
  exact Rd.below_bind (Rd.below_be16 (by omega)) (Rd.below_pure _)

theorem below_parseRrRd (pkt : List (BitVec 8)) (offset : Nat) :
    (parseRrRd pkt offset).Below pkt.length := by
  unfold parseRrRd
  refine Rd.below_andThen (below_dnsParseNameRd _ _ _) fun name _ => ?_
  refine Rd.below_ite (fun _ => Rd.below_pure _) fun hin => ?_
  refine Rd.below_bind (Rd.below_be16 (by omega)) ?_
  refine Rd.below_bind (Rd.below_be16 (by omega)) ?_
  refine Rd.below_bind (Rd.below_be32 (by omega)) ?_
  refine Rd.below_bind (Rd.below_be16 (by omega)) ?_
  refine Rd.below_ite (fun _ => Rd.below_pure _) fun hdata => ?_
  refine Rd.below_bind ?_ (Rd.below_pure _)
  exact Rd.below_ite (fun _ => Rd.below_bytes (Nat.le_of_not_lt hdata)) fun _ => Rd.below_pure _

theorem below_parseQuestionsRd (pkt : List (BitVec 8)) (n pos : Nat) :
    (parseQuestionsRd pkt n pos).Below pkt.length := by
  induction n generalizing pos with
  | zero => exact Rd.below_pure _
  | succ n ih =>
      refine Rd.below_andThen (below_parseQuestionRd _ _) fun first _ => ?_
      exact Rd.below_andThen (ih _) fun _ _ => Rd.below_pure _

theorem below_parseRrsRd (pkt : List (BitVec 8)) (n pos : Nat) :
    (parseRrsRd pkt n pos).Below pkt.length := by
  induction n generalizing pos with
  | zero => exact Rd.below_pure _
  | succ n ih =>
      refine Rd.below_ite (fun _ => Rd.below_pure _) fun _ => ?_
      refine Rd.below_andThen (below_parseRrRd _ _) fun first _ => ?_
      exact Rd.below_andThen (ih _) fun _ _ => Rd.below_pure _

/-- **The parser of responses stays in the message.** -/
theorem below_dnsParseMessageRd (data : List (BitVec 8)) :
    (dnsParseMessageRd data).Below data.length := by
  unfold dnsParseMessageRd
  refine Rd.below_ite (fun _ => Rd.below_pure _) fun hlong => ?_
  have hhdr : dnsHdrLen = 12 := rfl
  refine Rd.below_bind (Rd.below_be16 (by omega)) ?_
  refine Rd.below_bind (Rd.below_be16 (by omega)) ?_
  refine Rd.below_bind (Rd.below_be16 (by omega)) ?_
  refine Rd.below_bind (Rd.below_be16 (by omega)) ?_
  refine Rd.below_bind (Rd.below_be16 (by omega)) ?_
  refine Rd.below_bind (Rd.below_be16 (by omega)) ?_
  refine Rd.below_ite (fun _ => Rd.below_pure _) fun _ => ?_
  refine Rd.below_andThen (below_parseQuestionsRd _ _ _) fun questions _ => ?_
  exact Rd.below_andThen (below_parseRrsRd _ _ _) fun _ _ => Rd.below_pure _

end FastRG
