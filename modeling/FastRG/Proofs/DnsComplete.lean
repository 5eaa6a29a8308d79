/-
When a response is accepted.

A response is complete when all the questions and records that its header speaks of stand in it,
one after another.  The parser accepts every complete response and copies its records out, and it
accepts some that are not: the loop over the records also stops where the message ends, and a
name that runs off the end of the message counts as a name.  `responseRight_iff` says that these
two are the only ways.
-/
import FastRG.Lib.Laid
import FastRG.Proofs.DnsExact

namespace FastRG

/-! ### Questions and records in a message -/

/-- A question stands at an offset.  The flag tells whether its name ends at a zero byte. -/
def QuestionAt (data : List (BitVec 8)) (pos : Nat) (q : Bool × DnsQuestion) (next : Nat) : Prop :=
  ∃ size, NameStands data (dnsMaxDomainLen + 1) q.1 pos q.2.labels size ∧
    q.2.qtype = be16At data (pos + size) ∧ q.2.qclass = be16At data (pos + size + 2) ∧
    next = pos + size + 4 ∧ next ≤ data.length

/-- A record stands at an offset.  The flag tells whether its name ends at a zero byte. -/
def RecordAt (data : List (BitVec 8)) (pos : Nat) (r : Bool × DnsRecord) (next : Nat) : Prop :=
  ∃ size, NameStands data (dnsMaxDomainLen + 1) r.1 pos r.2.labels size ∧
    r.2 = dnsRecordAt data r.2.labels (pos + size) ∧
    next = pos + size + 10 + r.2.rdlength.toNat ∧ next ≤ data.length

/-- One name stands at an offset. -/
theorem NameStands.unique {pkt : List (BitVec 8)} {nameMax offset size size' : Nat}
    {closed closed' : Bool} {labels labels' : List (List (BitVec 8))}
    (h : NameStands pkt nameMax closed offset labels size)
    (h' : NameStands pkt nameMax closed' offset labels' size') :
    closed = closed' ∧ labels = labels' ∧ size = size' := by
  obtain ⟨_, -, hwalk, -⟩ := h
  obtain ⟨_, -, hwalk', -⟩ := h'
  obtain ⟨hclosed, -, hlabels, hsize⟩ := hwalk.unique hwalk' (Nat.lt_irrefl _)
  exact ⟨hclosed, hlabels, hsize⟩

section

variable {data : List (BitVec 8)}

theorem QuestionAt.unique (pos : Nat) (q : Bool × DnsQuestion) (next : Nat)
    (q' : Bool × DnsQuestion) (next' : Nat) (h : QuestionAt data pos q next)
    (h' : QuestionAt data pos q' next') : q = q' ∧ next = next' := by
  obtain ⟨closed, labels, qtype, qclass⟩ := q
  obtain ⟨closed', labels', qtype', qclass'⟩ := q'
  obtain ⟨size, hname, rfl, rfl, rfl, -⟩ := h
  obtain ⟨size', hname', rfl, rfl, rfl, -⟩ := h'
  obtain ⟨rfl, rfl, rfl⟩ := hname.unique hname'
  exact ⟨rfl, rfl⟩

theorem RecordAt.unique (pos : Nat) (r : Bool × DnsRecord) (next : Nat)
    (r' : Bool × DnsRecord) (next' : Nat) (h : RecordAt data pos r next)
    (h' : RecordAt data pos r' next') : r = r' ∧ next = next' := by
  obtain ⟨closed, record⟩ := r
  obtain ⟨closed', record'⟩ := r'
  obtain ⟨size, hname, hrecord, hnext, -⟩ := h
  obtain ⟨size', hname', hrecord', hnext', -⟩ := h'
  obtain ⟨rfl, hlabels, rfl⟩ := hname.unique hname'
  have hsame : record = record' := hrecord.trans ((congrArg (dnsRecordAt data · _) hlabels).trans
    hrecord'.symm)
  subst hsame
  exact ⟨rfl, hnext.trans hnext'.symm⟩

/-- A question and a record take bytes of the message. -/
theorem RecordAt.pos_lt {pos next : Nat} {r : Bool × DnsRecord} (h : RecordAt data pos r next) :
    pos < data.length := by
  obtain ⟨size, -, -, hnext, hle⟩ := h
  omega

/-! ### What the loops read -/

/-- A name is read at an offset with room after it exactly where one stands. -/
theorem dnsParseName_iff {pos size room : Nat} {labels : List (List (BitVec 8))}
    (hroom : 0 < room) (hin : pos + size + room ≤ data.length) :
    dnsParseName data pos = some ⟨labels, size⟩ ↔
      ∃ closed, NameStands data (dnsMaxDomainLen + 1) closed pos labels size := by
  rw [← val_dnsParseNameRd, dnsParseNameRd_iff]
  exact ⟨fun h => h.2, fun h => ⟨by omega, h⟩⟩

theorem parseQuestion_iff {pos next : Nat} {q : DnsQuestion} :
    parseQuestion data pos = some (q, next) ↔ ∃ closed, QuestionAt data pos (closed, q) next := by
  unfold parseQuestion
  simp only [Option.bind_eq_bind, Option.bind_eq_some_iff]
  refine ⟨fun h => ?_, fun h => ?_⟩
  · obtain ⟨⟨labels, size⟩, hname, h⟩ := h
    by_cases hin : data.length < pos + size + 4
    · rw [if_pos hin] at h
      exact absurd h (by simp)
    rw [if_neg hin] at h
    obtain ⟨rfl, rfl⟩ := Prod.mk.inj (Option.some.inj h)
    obtain ⟨closed, hstands⟩ := (dnsParseName_iff (by omega) (Nat.le_of_not_lt hin)).mp hname
    exact ⟨closed, size, hstands, rfl, rfl, rfl, Nat.le_of_not_lt hin⟩
  · obtain ⟨closed, size, hstands, htype, hclass, rfl, hin⟩ := h
    refine ⟨⟨q.labels, size⟩, (dnsParseName_iff (by omega) hin).mpr ⟨closed, hstands⟩, ?_⟩
    have hq : q = ⟨q.labels, be16At data (pos + size), be16At data (pos + size + 2)⟩ := by
      rw [← htype, ← hclass]
    rw [if_neg (Nat.not_lt_of_le hin), ← hq]

theorem parseRrRd_iff {pos next : Nat} {r : DnsRecord} :
    (parseRrRd data pos).val = some (r, next) ↔ ∃ closed, RecordAt data pos (closed, r) next := by
  rw [val_parseRrRd, Option.bind_eq_some_iff]
  refine ⟨fun h => ?_, fun h => ?_⟩
  · obtain ⟨⟨labels, size⟩, hname, h⟩ := h
    dsimp only at h
    by_cases hfixed : data.length < pos + size + 10
    · rw [if_pos hfixed] at h
      exact absurd h (by simp)
    rw [if_neg hfixed] at h
    by_cases hin : data.length < pos + size + 10 + (be16At data (pos + size + 8)).toNat
    · rw [if_pos hin] at h
      exact absurd h (by simp)
    rw [if_neg hin] at h
    obtain ⟨rfl, rfl⟩ := Prod.mk.inj (Option.some.inj h)
    obtain ⟨closed, hstands⟩ := (dnsParseName_iff (by omega) (Nat.le_of_not_lt hfixed)).mp hname
    exact ⟨closed, size, hstands, rfl, rfl, Nat.le_of_not_lt hin⟩
  · obtain ⟨closed, size, hstands, hrecord, hnext, hin⟩ := h
    have hlen : r.rdlength = be16At data (pos + size + 8) := congrArg DnsRecord.rdlength hrecord
    dsimp only at hnext hrecord
    rw [hlen] at hnext
    refine ⟨⟨r.labels, size⟩,
      (dnsParseName_iff (show 0 < 10 by omega) (by omega)).mpr ⟨closed, hstands⟩, ?_⟩
    dsimp only
    rw [if_neg (by omega), if_neg (by omega), ← hnext, ← hrecord]

/-- The loop over the questions reads those that stand there. -/
theorem parseQuestionsRd_iff (n : Nat) {pos last : Nat} {qs : List DnsQuestion} :
    (parseQuestionsRd data n pos).val = some (qs, last) ↔
      ∃ read, Laid (QuestionAt data) pos read last ∧ read.map Prod.snd = qs ∧ read.length = n := by
  induction n generalizing pos qs with
  | zero =>
      refine ⟨fun h => ?_, fun h => ?_⟩
      · obtain ⟨rfl, rfl⟩ := Prod.mk.inj (Option.some.inj h)
        exact ⟨[], .nil, rfl, rfl⟩
      · obtain ⟨read, hlaid, rfl, hlen⟩ := h
        obtain rfl := List.length_eq_zero_iff.mp hlen
        cases hlaid with
        | nil => rfl
  | succ n ih =>
      unfold parseQuestionsRd
      rw [Rd.val_andThen, Option.bind_eq_some_iff]
      simp only [Rd.val_andThen, Option.bind_eq_some_iff, Rd.val_pure, val_parseQuestionRd]
      refine ⟨fun h => ?_, fun h => ?_⟩
      · obtain ⟨⟨q, mid⟩, hq, ⟨rest, last'⟩, hrest, h⟩ := h
        obtain ⟨rfl, rfl⟩ := Prod.mk.inj (Option.some.inj h)
        obtain ⟨closed, hat⟩ := parseQuestion_iff.mp hq
        obtain ⟨read, hlaid, rfl, hlen⟩ := ih.mp hrest
        exact ⟨(closed, q) :: read, .cons hat hlaid, rfl, by rw [List.length_cons, hlen]⟩
      · obtain ⟨read, hlaid, rfl, hlen⟩ := h
        cases hlaid with
        | nil => exact absurd hlen (by simp)
        | @cons _ mid _ q rest hat hlaid =>
            refine ⟨(q.2, mid), parseQuestion_iff.mpr ⟨q.1, hat⟩, (rest.map Prod.snd, last), ?_,
              rfl⟩
            exact ih.mpr ⟨rest, hlaid, rfl, Nat.succ.inj hlen⟩

/-- The loop over the records reads those that stand there, and it also stops at the end of the
message. -/
theorem parseRrsRd_iff (n : Nat) {pos last : Nat} {rs : List DnsRecord} :
    (parseRrsRd data n pos).val = some (rs, last) ↔
      ∃ read, Laid (RecordAt data) pos read last ∧ read.map Prod.snd = rs ∧
        (read.length = n ∨ read.length < n ∧ data.length ≤ last) := by
  induction n generalizing pos rs with
  | zero =>
      refine ⟨fun h => ?_, fun h => ?_⟩
      · obtain ⟨rfl, rfl⟩ := Prod.mk.inj (Option.some.inj h)
        exact ⟨[], .nil, rfl, Or.inl rfl⟩
      · obtain ⟨read, hlaid, rfl, hlen⟩ := h
        obtain rfl := List.length_eq_zero_iff.mp (show read.length = 0 by omega)
        cases hlaid with
        | nil => rfl
  | succ n ih =>
      unfold parseRrsRd
      by_cases hend : data.length ≤ pos
      · rw [if_pos hend]
        refine ⟨fun h => ?_, fun h => ?_⟩
        · obtain ⟨rfl, rfl⟩ := Prod.mk.inj (Option.some.inj h)
          exact ⟨[], .nil, rfl, Or.inr ⟨Nat.succ_pos n, hend⟩⟩
        · obtain ⟨read, hlaid, rfl, hlen⟩ := h
          cases hlaid with
          | nil => rfl
          | cons hat => exact absurd hat.pos_lt (Nat.not_lt_of_le hend)
      rw [if_neg hend, Rd.val_andThen, Option.bind_eq_some_iff]
      simp only [Rd.val_andThen, Option.bind_eq_some_iff, Rd.val_pure]
      refine ⟨fun h => ?_, fun h => ?_⟩
      · obtain ⟨⟨r, mid⟩, hr, ⟨rest, last'⟩, hrest, h⟩ := h
        obtain ⟨rfl, rfl⟩ := Prod.mk.inj (Option.some.inj h)
        obtain ⟨closed, hat⟩ := parseRrRd_iff.mp hr
        obtain ⟨read, hlaid, rfl, hlen⟩ := ih.mp hrest
        refine ⟨(closed, r) :: read, .cons hat hlaid, rfl, ?_⟩
        rw [List.length_cons]
        omega
      · obtain ⟨read, hlaid, rfl, hlen⟩ := h
        cases hlaid with
        | nil =>
            rcases hlen with hlen | hlen
            · exact absurd hlen (by simp)
            · exact absurd hlen.2 hend
        | @cons _ mid _ r rest hat hlaid =>
            rw [List.length_cons] at hlen
            refine ⟨(r.2, mid), parseRrRd_iff.mpr ⟨r.1, hat⟩, (rest.map Prod.snd, last), ?_, rfl⟩
            exact ih.mpr ⟨rest, hlaid, rfl, by omega⟩

end

/-! ### Responses -/

/-- The header is that of a response. -/
def IsResponse (data : List (BitVec 8)) : Prop :=
  dnsHdrLen ≤ data.length ∧ (dnsHeader data).flags &&& dnsFlagQr ≠ 0

/-- The questions that the header speaks of stand after it, and these records after them. -/
structure Reading (data : List (BitVec 8)) (qs : List (Bool × DnsQuestion))
    (rs : List (Bool × DnsRecord)) (last : Nat) : Prop where
  laid : ∃ pos, Laid (QuestionAt data) dnsHdrLen qs pos ∧ Laid (RecordAt data) pos rs last
  count : qs.length = (dnsHeader data).qdcount.toNat

/-- What is copied out of a reading. -/
def messageOf (data : List (BitVec 8)) (qs : List (Bool × DnsQuestion))
    (rs : List (Bool × DnsRecord)) : DnsMessage where
  header := dnsHeader data
  question := (qs.map Prod.snd).head?
  answerCount := min (dnsHeader data).ancount.toNat dnsMaxAnswers
  minTtl := lowestTtl 0 (rs.map Prod.snd)
  answers := (rs.map Prod.snd).take dnsMaxAnswers

/-- All the records that the header speaks of, or as many as there are before the message ends. -/
def EnoughRecords (data : List (BitVec 8)) (rs : List (Bool × DnsRecord)) (last : Nat) : Prop :=
  rs.length = (dnsHeader data).ancount.toNat ∨
    rs.length < (dnsHeader data).ancount.toNat ∧ data.length ≤ last

section

variable {data : List (BitVec 8)}

/-- **What is accepted.** -/
theorem dnsParseMessage_iff {m : DnsMessage} :
    dnsParseMessage data = some m ↔
      IsResponse data ∧ ∃ qs rs last,
        Reading data qs rs last ∧ EnoughRecords data rs last ∧ m = messageOf data qs rs := by
  unfold dnsParseMessage dnsParseMessageRd
  by_cases hshort : data.length < dnsHdrLen
  · rw [if_pos hshort]
    exact ⟨fun h => absurd h (by simp), fun h => absurd h.1.1 (Nat.not_le_of_lt hshort)⟩
  rw [if_neg hshort, Rd.val_bind, val_be16, Rd.val_bind, val_be16, Rd.val_bind, val_be16,
    Rd.val_bind, val_be16, Rd.val_bind, Rd.val_bind, Rd.val_ite]
  by_cases hqr : be16At data 2 &&& dnsFlagQr = 0
  · rw [if_pos hqr]
    exact ⟨fun h => absurd h (by simp), fun h => absurd hqr h.1.2⟩
  rw [if_neg hqr, Rd.val_andThen, Option.bind_eq_some_iff]
  simp only [Rd.val_andThen, Option.bind_eq_some_iff, Rd.val_pure]
  refine ⟨fun h => ⟨⟨Nat.le_of_not_lt hshort, hqr⟩, ?_⟩, fun h => ?_⟩
  · obtain ⟨⟨questions, pos⟩, hqs, ⟨records, last⟩, hrs, h⟩ := h
    obtain ⟨qs, hlaidq, rfl, hcount⟩ := (parseQuestionsRd_iff _).mp hqs
    obtain ⟨rs, hlaidr, rfl, hmany⟩ := (parseRrsRd_iff _).mp hrs
    exact ⟨qs, rs, last, ⟨⟨pos, hlaidq, hlaidr⟩, hcount⟩, hmany, (Option.some.inj h).symm⟩
  · obtain ⟨-, qs, rs, last, ⟨⟨pos, hlaidq, hlaidr⟩, hcount⟩, hmany, rfl⟩ := h
    exact ⟨_, (parseQuestionsRd_iff _).mpr ⟨qs, hlaidq, rfl, hcount⟩, _,
      (parseRrsRd_iff _).mpr ⟨rs, hlaidr, rfl, hmany⟩, rfl⟩

/-- One reading is as long as it says, and so is any other. -/
theorem Reading.goes_on {qs qs' : List (Bool × DnsQuestion)} {rs rs' : List (Bool × DnsRecord)}
    {last last' : Nat} (h : Reading data qs rs last) (h' : Reading data qs' rs' last')
    (hle : rs.length ≤ rs'.length) :
    qs = qs' ∧ ∃ rest, rs' = rs ++ rest ∧ Laid (RecordAt data) last rest last' := by
  obtain ⟨⟨pos, hq, hr⟩, hcount⟩ := h
  obtain ⟨⟨pos', hq', hr'⟩, hcount'⟩ := h'
  obtain ⟨hqs, rfl⟩ := hq.unique QuestionAt.unique hq' (hcount.trans hcount'.symm)
  exact ⟨hqs, hr.goes_on RecordAt.unique hr' hle⟩

/-- All the questions and records that the header speaks of stand in the message, and each name
ends at a zero byte. -/
def Complete (data : List (BitVec 8)) (rs : List (Bool × DnsRecord)) : Prop :=
  IsResponse data ∧ ∃ qs last, Reading data qs rs last ∧
    rs.length = (dnsHeader data).ancount.toNat ∧
    (∀ q ∈ qs, q.1 = true) ∧ ∀ r ∈ rs, r.1 = true

/-- A response is accepted exactly if it is complete, and its records are copied out. -/
def ResponseRight (data : List (BitVec 8)) : Prop :=
  ((dnsParseMessage data).isSome = true ↔ ∃ rs, Complete data rs) ∧
    ∀ m, dnsParseMessage data = some m → ∀ i < m.answerCount,
      ∃ rs, Complete data rs ∧ rs[i]?.map Prod.snd = some (m.answer i)

/-- The records do not reach the end of the message before there are as many as the header speaks
of. -/
def EndsInTime (data : List (BitVec 8)) : Prop :=
  ∀ qs rs last, Reading data qs rs last → rs.length < (dnsHeader data).ancount.toNat →
    last < data.length

/-- If all the records are there, then no name in the message runs off its end. -/
def NamesEnd (data : List (BitVec 8)) : Prop :=
  ∀ qs rs last, Reading data qs rs last → rs.length = (dnsHeader data).ancount.toNat →
    (∀ q ∈ qs, q.1 = true) ∧ ∀ r ∈ rs, r.1 = true

theorem Complete.isSome {rs : List (Bool × DnsRecord)} (h : Complete data rs) :
    (dnsParseMessage data).isSome = true := by
  obtain ⟨hresponse, qs, last, hreading, hcount, -⟩ := h
  rw [dnsParseMessage_iff.mpr ⟨hresponse, qs, rs, last, hreading, Or.inl hcount, rfl⟩]
  rfl

/-- The records of a complete response, as they are copied out. -/
theorem getElem?_messageOf {qs : List (Bool × DnsQuestion)} {rs : List (Bool × DnsRecord)} {i : Nat}
    (hcount : rs.length = (dnsHeader data).ancount.toNat)
    (hi : i < (messageOf data qs rs).answerCount) :
    rs[i]?.map Prod.snd = some ((messageOf data qs rs).answer i) := by
  have hboth : i < (dnsHeader data).ancount.toNat ∧ i < dnsMaxAnswers := Nat.lt_min.mp hi
  have hin : i < rs.length := by omega
  unfold DnsMessage.answer
  show _ = some (((rs.map Prod.snd).take dnsMaxAnswers).getD i .zero)
  rw [List.getD_eq_getElem?_getD, List.getElem?_take_of_lt hboth.2, List.getElem?_map,
    List.getElem?_eq_getElem hin]
  rfl

/-- **A response is accepted as it should be exactly if its records do not end with the message
too early, and none of its names ends with the message.** -/
theorem responseRight_iff (data : List (BitVec 8)) :
    ResponseRight data ↔ (IsResponse data → EndsInTime data ∧ NamesEnd data) := by
  refine ⟨fun h hresponse => ⟨fun qs rs last hreading hless => ?_, ?_⟩, fun h => ?_⟩
  · -- A message that ended here would be accepted, and would not be complete.
    refine Nat.lt_of_not_le fun hend => ?_
    have hread := dnsParseMessage_iff.mpr
      ⟨hresponse, qs, rs, last, hreading, Or.inr ⟨hless, hend⟩, rfl⟩
    obtain ⟨rs', -, qs', last', hreading', hcount, -⟩ := h.1.mp (by rw [hread]; rfl)
    obtain ⟨-, rest, hrest, hlaid⟩ := hreading.goes_on hreading' (by omega)
    cases hlaid with
    | nil =>
        rw [List.append_nil] at hrest
        rw [hrest] at hcount
        omega
    | cons hat => exact absurd hat.pos_lt (Nat.not_lt_of_le hend)
  · intro qs rs last hreading hcount
    have hread := dnsParseMessage_iff.mpr
      ⟨hresponse, qs, rs, last, hreading, Or.inl hcount, rfl⟩
    obtain ⟨rs', -, qs', last', hreading', hcount', hclosed⟩ := h.1.mp (by rw [hread]; rfl)
    obtain ⟨rfl, rest, hrest, -⟩ := hreading.goes_on hreading' (by omega)
    have hnil : rest = [] := by
      rw [hrest, List.length_append] at hcount'
      exact List.length_eq_zero_iff.mp (by omega)
    rw [hnil, List.append_nil] at hrest
    rw [hrest] at hclosed
    exact hclosed
  · -- What is accepted has a reading, which the two conditions make complete.
    have haccepted : ∀ m, dnsParseMessage data = some m →
        ∃ qs rs, Complete data rs ∧ m = messageOf data qs rs := by
      intro m hm
      obtain ⟨hresponse, qs, rs, last, hreading, henough, rfl⟩ := dnsParseMessage_iff.mp hm
      obtain ⟨htime, hnames⟩ := h hresponse
      rcases henough with hcount | ⟨hless, hend⟩
      · exact ⟨qs, rs, ⟨hresponse, qs, last, hreading, hcount, hnames qs rs last hreading hcount⟩,
          rfl⟩
      · exact absurd (htime qs rs last hreading hless) (Nat.not_lt_of_le hend)
    refine ⟨⟨fun hsome => ?_, fun hcomplete => ?_⟩, fun m hm i hi => ?_⟩
    · obtain ⟨m, hm⟩ := Option.isSome_iff_exists.mp hsome
      obtain ⟨_, rs, hcomplete, -⟩ := haccepted m hm
      exact ⟨rs, hcomplete⟩
    · obtain ⟨rs, hcomplete⟩ := hcomplete
      exact hcomplete.isSome
    · obtain ⟨qs, rs, hcomplete, rfl⟩ := haccepted m hm
      obtain ⟨-, -, -, -, hcount, -⟩ := id hcomplete
      exact ⟨rs, hcomplete, getElem?_messageOf hcount hi⟩

end

/--
**When a response is accepted.**  For every byte string the loop over a name ends and no byte
outside the string is read; the proxy's own view of a response is a part of what is copied out; and
what is accepted is what is complete, with its records copied out, exactly if the message does not
end between two of its records and no name runs off its end.
-/
theorem dnsParseMessage_right_iff (data : List (BitVec 8)) :
    (∀ offset extra,
      dnsParseNameFrom data offset (dnsMaxDomainLen + 1) (dnsParseFuel data + extra) offset 0 0 [] =
        dnsParseNameFrom data offset (dnsMaxDomainLen + 1) (dnsParseFuel data) offset 0 0 []) ∧
      (dnsParseMessageRd data).Below data.length ∧
      (dnsParseMessage data).map DnsMessage.toDnsResponse = dnsParseResponse data ∧
      (ResponseRight data ↔ (IsResponse data → EndsInTime data ∧ NamesEnd data)) := by
  refine ⟨fun offset extra => ?_, ?_, ?_, ?_⟩
  · exact dnsParseNameFrom_enough data offset _ (Nat.le_add_right _ _)
  · exact below_dnsParseMessageRd data
  · exact dnsParseMessage_summary data
  · exact responseRight_iff data

/-- A header that speaks of one record, and nothing after it, is accepted. -/
theorem missing_record_accepted :
    ¬ ResponseRight [0, 1, 0x80, 0, 0, 0, 0, 1, 0, 0, 0, 0] := by
  rw [responseRight_iff]
  intro h
  have htime := (h ⟨by decide, by decide⟩).1
  exact absurd (htime [] [] 12 ⟨⟨12, .nil, .nil⟩, by decide⟩ (by decide)) (by decide)

end FastRG
