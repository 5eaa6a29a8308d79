/-
Whether an answer of the proxy's own parses back.

An answer is the query with some bytes of its header rewritten, and with whatever followed the
question replaced.  The question is copied as it stands, so it comes back as it was unless its name
points into what was rewritten or replaced; and the record's name is a pointer to it, which makes
one jump more.  That is all that can go wrong (`answers_parse_back_iff`).
-/
import FastRG.Proofs.DnsComplete
import Mathlib.Tactic.IntervalCases

namespace FastRG

/-! ### The bytes of an answer -/

/-- What `dns_build_response_a` puts after the question. -/
def answerTail (ipAddr ttl : BitVec 32) : List (BitVec 8) :=
  [0xC0, 0x0C, 0, 1, 0, 1] ++
    (be16Bytes (ttl.extractLsb' 16 16) ++ be16Bytes (ttl.extractLsb' 0 16)) ++
    [0, 4] ++ le32Bytes ipAddr

/-- A byte of an answer: the flags and the counts are rewritten, the rest is the query's up to
the end of the question, and there the tail begins. -/
def rewrittenByte (query : List (BitVec 8)) (rcode ancount : BitVec 16) (qend : Nat)
    (tail : List (BitVec 8)) (i : Nat) : BitVec 8 :=
  if i = 2 then (dnsResponseFlags (be16At query 2) rcode).extractLsb' 8 8
  else if i = 3 then (dnsResponseFlags (be16At query 2) rcode).extractLsb' 0 8
  else if i = 6 then ancount.extractLsb' 8 8
  else if i = 7 then ancount.extractLsb' 0 8
  else if 8 ≤ i ∧ i < 12 then 0
  else if i < qend then byteAt query i
  else byteAt tail (i - qend)

/-- The query with its header rewritten, up to the end of the question. -/
def rewrittenQuery (query : List (BitVec 8)) (rcode ancount : BitVec 16) (qend : Nat) :
    List (BitVec 8) :=
  query.take 2 ++ be16Bytes (dnsResponseFlags (be16At query 2) rcode) ++ (query.drop 4).take 2 ++
    be16Bytes ancount ++ [0, 0, 0, 0] ++ (query.take qend).drop dnsHdrLen

section

variable {query tail : List (BitVec 8)} {rcode ancount : BitVec 16} {qend : Nat}

theorem byteAt_append_left {a b : List (BitVec 8)} {i : Nat} (h : i < a.length) :
    byteAt (a ++ b) i = byteAt a i := by
  unfold byteAt
  rw [List.getD_eq_getElem?_getD, List.getElem?_append_left h, List.getD_eq_getElem?_getD]

theorem byteAt_append_right {a b : List (BitVec 8)} {i : Nat} (h : a.length ≤ i) :
    byteAt (a ++ b) i = byteAt b (i - a.length) := by
  unfold byteAt
  rw [List.getD_eq_getElem?_getD, List.getElem?_append_right h, List.getD_eq_getElem?_getD]

theorem byteAt_take {a : List (BitVec 8)} {n i : Nat} (h : i < n) :
    byteAt (a.take n) i = byteAt a i := by
  unfold byteAt
  rw [List.getD_eq_getElem?_getD, List.getElem?_take_of_lt h, List.getD_eq_getElem?_getD]

theorem byteAt_drop (a : List (BitVec 8)) (n i : Nat) :
    byteAt (a.drop n) i = byteAt a (n + i) := by
  unfold byteAt
  rw [List.getD_eq_getElem?_getD, List.getElem?_drop, List.getD_eq_getElem?_getD]

variable (rcode ancount) in
theorem length_rewrittenQuery (hlow : dnsHdrLen ≤ qend) (hhigh : qend ≤ query.length) :
    (rewrittenQuery query rcode ancount qend).length = qend := by
  have hhdr : dnsHdrLen = 12 := rfl
  simp only [rewrittenQuery, be16Bytes, List.length_append, List.length_take, List.length_drop,
    List.length_cons, List.length_nil]
  omega

/-- The header is rewritten byte for byte. -/
theorem byteAt_rewrittenQuery (hlow : dnsHdrLen ≤ qend) (hhigh : qend ≤ query.length) {i : Nat}
    (hin : i < qend) :
    byteAt (rewrittenQuery query rcode ancount qend) i =
      rewrittenByte query rcode ancount qend tail i := by
  have hhdr : dnsHdrLen = 12 := rfl
  have htwo : (query.take 2).length = 2 := by rw [List.length_take]; omega
  have hfour : ((query.drop 4).take 2).length = 2 := by
    rw [List.length_take, List.length_drop]
    omega
  have hbytes (x : BitVec 16) : (be16Bytes x).length = 2 := rfl
  unfold rewrittenQuery rewrittenByte
  by_cases h12 : 12 ≤ i
  · rw [byteAt_append_right (by simp only [List.length_append, htwo, hfour, hbytes]; exact h12),
      byteAt_drop, byteAt_take (by
        simp only [List.length_append, htwo, hfour, hbytes, List.length_cons, List.length_nil]
        omega),
      if_neg (by omega), if_neg (by omega), if_neg (by omega), if_neg (by omega),
      if_neg (by omega), if_pos hin]
    congr 1
    simp only [List.length_append, htwo, hfour, hbytes, List.length_cons, List.length_nil]
    omega
  rw [byteAt_append_left (by
    simp only [List.length_append, htwo, hfour, hbytes, List.length_cons, List.length_nil]
    omega)]
  by_cases h8 : 8 ≤ i
  · rw [byteAt_append_right (by simp only [List.length_append, htwo, hfour, hbytes]; exact h8),
      if_neg (by omega), if_neg (by omega), if_neg (by omega), if_neg (by omega),
      if_pos ⟨h8, by omega⟩]
    simp only [List.length_append, htwo, hfour, hbytes]
    obtain ⟨k, rfl⟩ := Nat.exists_eq_add_of_le h8
    have hk : k < 4 := by omega
    interval_cases k <;> rfl
  rw [byteAt_append_left (by simp only [List.length_append, htwo, hfour, hbytes]; omega)]
  by_cases h6 : 6 ≤ i
  · rw [byteAt_append_right (by simp only [List.length_append, htwo, hfour, hbytes]; exact h6)]
    simp only [List.length_append, htwo, hfour, hbytes]
    interval_cases i <;> rfl
  rw [byteAt_append_left (by simp only [List.length_append, htwo, hfour, hbytes]; omega)]
  by_cases h4 : 4 ≤ i
  · rw [byteAt_append_right (by simp only [List.length_append, htwo, hbytes]; exact h4),
      byteAt_take (by simp only [List.length_append, htwo, hbytes]; omega), byteAt_drop,
      if_neg (by omega), if_neg (by omega), if_neg (by omega), if_neg (by omega),
      if_neg (by omega), if_pos hin]
    congr 1
    simp only [List.length_append, htwo, hbytes]
    omega
  rw [byteAt_append_left (by simp only [List.length_append, htwo, hbytes]; omega)]
  by_cases h2 : 2 ≤ i
  · rw [byteAt_append_right (by rw [htwo]; exact h2), htwo]
    interval_cases i <;> rfl
  · rw [byteAt_append_left (by rw [htwo]; omega), byteAt_take (by omega), if_neg (by omega),
      if_neg (by omega), if_neg (by omega), if_neg (by omega), if_neg (by omega), if_pos hin]

/-- **Byte for byte.** -/
theorem byteAt_rewritten (hlow : dnsHdrLen ≤ qend) (hhigh : qend ≤ query.length) (i : Nat) :
    byteAt (rewrittenQuery query rcode ancount qend ++ tail) i =
      rewrittenByte query rcode ancount qend tail i := by
  have hhdr : dnsHdrLen = 12 := rfl
  have hlen := length_rewrittenQuery rcode ancount hlow hhigh
  by_cases hin : i < qend
  · rw [byteAt_append_left (by omega)]
    exact byteAt_rewrittenQuery hlow hhigh hin
  · rw [byteAt_append_right (by omega), hlen]
    unfold rewrittenByte
    rw [if_neg (by omega), if_neg (by omega), if_neg (by omega), if_neg (by omega),
      if_neg (by omega), if_neg hin]

end

/-! ### Where the question ends -/

/-- The bytes that a name takes where it starts tell where it ends. -/
theorem NameWalk.size_eq {mem mem' : Nat → BitVec 8} {seen seen' : Nat → Prop}
    {limit limit' pos jumps jumps' size size' : Nat} {closed closed' : Bool}
    {labels labels' : List (List (BitVec 8))}
    (h : NameWalk mem seen limit closed pos jumps labels size)
    (h' : NameWalk mem' seen' limit' closed' pos jumps' labels' size')
    (hmem : ∀ i < size, mem' (pos + i) = mem (pos + i)) (hin : pos + size < limit)
    (hin' : pos + size ≤ limit') : size' = size := by
  induction h generalizing jumps' labels' size' with
  | @root pos _ hzero =>
      have hbyte : mem' pos = mem pos := hmem 0 (by omega)
      cases h' with
      | root => rfl
      | off => omega
      | label _ hpos => exact absurd (by rw [hbyte]; exact hzero) hpos
      | pointer _ _ hptr =>
          rw [hbyte] at hptr
          omega
  | off => omega
  | @label _ pos _ size _ hseen hpos hle _ ih =>
      have hbyte : mem' pos = mem pos := hmem 0 (by omega)
      cases h' with
      | root _ hzero =>
          rw [hbyte] at hzero
          exact absurd hzero hpos
      | off => omega
      | label _ _ _ hrest =>
          rw [hbyte] at hrest
          have hsize := ih hrest (fun i hi => ?_) (by omega) (by omega)
          · rw [hsize, hbyte]
          · have hat := hmem (1 + (mem pos).toNat + i) (by omega)
            rwa [← Nat.add_assoc, ← Nat.add_assoc] at hat
      | pointer _ _ hptr =>
          have hmax : dnsMaxLabelLen = 63 := rfl
          rw [hbyte] at hptr
          omega
  | @pointer _ pos _ _ _ _ _ hptr _ _ _ =>
      have hbyte : mem' pos = mem pos := hmem 0 (by omega)
      cases h' with
      | root _ hzero =>
          rw [hbyte] at hzero
          omega
      | off => omega
      | label _ _ hle =>
          have hmax : dnsMaxLabelLen = 63 := rfl
          rw [hbyte] at hle
          omega
      | pointer => rfl

/-! ### The header of an answer -/

theorem be16_extract (x : BitVec 16) : x.extractLsb' 8 8 ++ x.extractLsb' 0 8 = x :=
  be16At_be16Bytes x []

theorem dnsResponseFlags_qr (flags rcode : BitVec 16) :
    dnsResponseFlags flags rcode &&& dnsFlagQr ≠ 0 := by
  intro h
  have hbit := congrArg (fun x : BitVec 16 => x.getLsbD 15) h
  simp [dnsResponseFlags, dnsFlagQr, dnsFlagRa] at hbit

theorem dnsResponseFlags_rcode (flags rcode : BitVec 16) :
    dnsResponseFlags flags rcode &&& 0x0F = rcode &&& 0x0F := by
  apply BitVec.eq_of_getLsbD_eq
  intro i hi
  interval_cases i <;> simp [dnsResponseFlags, dnsFlagQr, dnsFlagRa]

section

variable {query tail : List (BitVec 8)} {rcode ancount : BitVec 16} {qend : Nat}

variable (tail rcode ancount) in
/-- Two bytes of an answer. -/
theorem be16At_rewritten (hlow : dnsHdrLen ≤ qend) (hhigh : qend ≤ query.length) (i : Nat) :
    be16At (rewrittenQuery query rcode ancount qend ++ tail) i =
      rewrittenByte query rcode ancount qend tail i ++
        rewrittenByte query rcode ancount qend tail (i + 1) := by
  rw [← byteAt_rewritten hlow hhigh, ← byteAt_rewritten hlow hhigh]
  rfl

variable (tail rcode ancount) in
/-- The header of an answer: the query's identifier and count of questions. -/
theorem dnsHeader_rewritten (hlow : dnsHdrLen ≤ qend) (hhigh : qend ≤ query.length) :
    dnsHeader (rewrittenQuery query rcode ancount qend ++ tail) =
      ⟨(dnsHeader query).id, dnsResponseFlags (dnsHeader query).flags rcode,
        (dnsHeader query).qdcount, ancount⟩ := by
  have hhdr : dnsHdrLen = 12 := rfl
  have hpair := be16At_rewritten tail rcode ancount hlow hhigh
  have hkeep (i : Nat) (hi : i < 2 ∨ i = 4 ∨ i = 5) :
      rewrittenByte query rcode ancount qend tail i = byteAt query i := by
    unfold rewrittenByte
    rw [if_neg (by omega), if_neg (by omega), if_neg (by omega), if_neg (by omega),
      if_neg (by omega), if_pos (by omega)]
  unfold dnsHeader
  rw [hpair 0, hpair 2, hpair 4, hpair 6, hkeep 0 (by omega), hkeep 1 (by omega), hkeep 4 (by omega),
    hkeep 5 (by omega)]
  show DnsHeader.mk _ ((dnsResponseFlags (be16At query 2) rcode).extractLsb' 8 8 ++
    (dnsResponseFlags (be16At query 2) rcode).extractLsb' 0 8) _
    (ancount.extractLsb' 8 8 ++ ancount.extractLsb' 0 8) = _
  rw [be16_extract, be16_extract]
  rfl

/-- A walk over an answer is one over the bytes as they are rewritten. -/
theorem nameWalk_rewritten {closed : Bool} {pos jumps size : Nat}
    {labels : List (List (BitVec 8))} (hlow : dnsHdrLen ≤ qend) (hhigh : qend ≤ query.length) :
    NameWalk (byteAt (rewrittenQuery query rcode ancount qend ++ tail))
        (· < (rewrittenQuery query rcode ancount qend ++ tail).length)
        (rewrittenQuery query rcode ancount qend ++ tail).length closed pos jumps labels size ↔
      NameWalk (rewrittenByte query rcode ancount qend tail) (· < qend + tail.length)
        (qend + tail.length) closed pos jumps labels size := by
  have hmem : byteAt (rewrittenQuery query rcode ancount qend ++ tail) =
      rewrittenByte query rcode ancount qend tail :=
    funext fun i => byteAt_rewritten hlow hhigh i
  rw [hmem, List.length_append, length_rewrittenQuery _ _ hlow hhigh]

end

/-! ### The question of an answer -/

/-- In the bytes as they are rewritten, a name with the question's text stands after the header,
in so many jumps. -/
def NameKept (query : List (BitVec 8)) (q : DnsQuery) (qend : Nat) (rcode ancount : BitVec 16)
    (tail : List (BitVec 8)) (jumpsMax : Nat) : Prop :=
  ∃ closed labels size, ∃ jumps ≤ jumpsMax,
    NameWalk (rewrittenByte query rcode ancount qend tail) (· < qend + tail.length)
        (qend + tail.length) closed dnsHdrLen jumps labels size ∧
      (dnsText labels).length < dnsMaxDomainLen + 1 ∧ dnsNameText labels = q.question.name

/-- A query that is accepted, and where its question ends. -/
structure AcceptedQuery (query : List (BitVec 8)) (q : DnsQuery) (qend : Nat) : Prop where
  parsed : dnsParseQuery query = some q
  question : parseQuestion query dnsHdrLen = some (q.question, qend)

/-- What it takes to be accepted. -/
theorem of_dnsParseQuery {query : List (BitVec 8)} {q : DnsQuery}
    (h : dnsParseQuery query = some q) :
    dnsHdrLen ≤ query.length ∧ (dnsHeader query).qdcount = 1 ∧ q.header = dnsHeader query ∧
      ∃ qend, parseQuestion query dnsHdrLen = some (q.question, qend) := by
  simp only [dnsParseQuery, Option.bind_eq_bind] at h
  split at h
  · exact absurd h (by simp)
  rename_i hlong
  split at h
  · exact absurd h (by simp)
  split at h
  · exact absurd h (by simp)
  rename_i hone
  obtain ⟨⟨question, qend⟩, hquestion, hq⟩ := Option.bind_eq_some_iff.mp h
  obtain rfl := Option.some.inj hq
  exact ⟨Nat.le_of_not_lt hlong, not_not.mp hone, rfl, qend, hquestion⟩

theorem exists_acceptedQuery {query : List (BitVec 8)} {q : DnsQuery}
    (h : dnsParseQuery query = some q) : ∃ qend, AcceptedQuery query q qend := by
  obtain ⟨-, -, -, qend, hquestion⟩ := of_dnsParseQuery h
  exact ⟨qend, h, hquestion⟩

namespace AcceptedQuery

variable {query tail : List (BitVec 8)} {q : DnsQuery} {qend : Nat} {rcode ancount : BitVec 16}

theorem header (h : AcceptedQuery query q qend) :
    dnsHdrLen ≤ query.length ∧ q.header = dnsHeader query ∧ (dnsHeader query).qdcount = 1 := by
  obtain ⟨hlong, hone, hheader, -⟩ := of_dnsParseQuery h.parsed
  exact ⟨hlong, hheader, hone⟩

/-- The question of a query, as it stands there. -/
theorem at_query (h : AcceptedQuery query q qend) :
    ∃ closed, QuestionAt query dnsHdrLen (closed, q.question) qend :=
  parseQuestion_iff.mp h.question

theorem ends (h : AcceptedQuery query q qend) : dnsHdrLen + 4 ≤ qend ∧ qend ≤ query.length := by
  obtain ⟨_, size, _, _, _, hend, hle⟩ := h.at_query
  omega

theorem low (h : AcceptedQuery query q qend) : dnsHdrLen ≤ qend := by
  have := h.ends
  omega

/-- Between the header and the end of the question nothing is rewritten. -/
theorem byte_kept (i : Nat) (hlow : dnsHdrLen ≤ i) (hin : i < qend) :
    rewrittenByte query rcode ancount qend tail i = byteAt query i := by
  have hhdr : dnsHdrLen = 12 := rfl
  unfold rewrittenByte
  rw [if_neg (by omega), if_neg (by omega), if_neg (by omega), if_neg (by omega),
    if_neg (by omega), if_pos hin]

/-- The name of the question takes the bytes that it took in the query. -/
theorem size (h : AcceptedQuery query q qend) {closed : Bool} {jumps size : Nat}
    {labels : List (List (BitVec 8))}
    (hwalk : NameWalk (rewrittenByte query rcode ancount qend tail) (· < qend + tail.length)
      (qend + tail.length) closed dnsHdrLen jumps labels size) : dnsHdrLen + size + 4 = qend := by
  obtain ⟨_, size', ⟨_, -, hwalk', -⟩, -, -, hend, hle⟩ := h.at_query
  have hsize := hwalk'.size_eq hwalk (fun i hi => byte_kept _ (by omega) (by omega)) (by omega)
    (by omega)
  rw [hsize]
  exact hend.symm

variable (tail rcode ancount) in
/-- The question of an answer: its type and class are those of the query. -/
theorem question_rewritten (h : AcceptedQuery query q qend) {closed : Bool} {q' : DnsQuestion}
    {next : Nat} :
    QuestionAt (rewrittenQuery query rcode ancount qend ++ tail) dnsHdrLen (closed, q') next ↔
      (∃ size, ∃ jumps ≤ dnsMaxJumps,
        NameWalk (rewrittenByte query rcode ancount qend tail) (· < qend + tail.length)
            (qend + tail.length) closed dnsHdrLen jumps q'.labels size ∧
          (dnsText q'.labels).length < dnsMaxDomainLen + 1) ∧
        q'.qtype = q.question.qtype ∧ q'.qclass = q.question.qclass ∧ next = qend := by
  have hhigh := h.ends.2
  have hlen : (rewrittenQuery query rcode ancount qend ++ tail).length = qend + tail.length := by
    rw [List.length_append, length_rewrittenQuery _ _ h.low hhigh]
  obtain ⟨_, size', _, htype, hclass, hend, -⟩ := h.at_query
  have hat (i : Nat) (hlow : dnsHdrLen ≤ i) (hin : i + 1 < qend) :
      be16At (rewrittenQuery query rcode ancount qend ++ tail) i = be16At query i := by
    show byteAt _ i ++ byteAt _ (i + 1) = byteAt query i ++ byteAt query (i + 1)
    rw [byteAt_rewritten h.low hhigh, byteAt_rewritten h.low hhigh,
      byte_kept i hlow (by omega), byte_kept (i + 1) (by omega) hin]
  refine ⟨fun hq => ?_, fun hq => ?_⟩
  · obtain ⟨size, ⟨jumps, hfew, hwalk, htext⟩, htype', hclass', hnext, -⟩ := hq
    have hwalk' := (nameWalk_rewritten h.low hhigh).mp hwalk
    have hsize := h.size hwalk'
    obtain rfl : size = size' := by omega
    refine ⟨⟨size, jumps, hfew, hwalk', htext⟩, ?_, ?_, by omega⟩
    · exact htype'.trans ((hat _ (by omega) (by omega)).trans htype.symm)
    · exact hclass'.trans ((hat _ (by omega) (by omega)).trans hclass.symm)
  · obtain ⟨⟨size, jumps, hfew, hwalk, htext⟩, htype', hclass', rfl⟩ := hq
    have hsize := h.size hwalk
    obtain rfl : size = size' := by omega
    refine ⟨size, ⟨jumps, hfew, (nameWalk_rewritten h.low hhigh).mpr hwalk, htext⟩, ?_, ?_,
      hsize.symm, by rw [hlen]; omega⟩
    · exact htype'.trans (htype.trans (hat _ (by omega) (by omega)).symm)
    · exact hclass'.trans (hclass.trans (hat _ (by omega) (by omega)).symm)

variable (tail rcode ancount) in
/-- What is read of an answer: one question, and whatever records follow it. -/
theorem reading_rewritten (h : AcceptedQuery query q qend) {qs : List (Bool × DnsQuestion)}
    {rs : List (Bool × DnsRecord)} {last : Nat} :
    Reading (rewrittenQuery query rcode ancount qend ++ tail) qs rs last ↔
      ∃ closed q', qs = [(closed, q')] ∧
        QuestionAt (rewrittenQuery query rcode ancount qend ++ tail) dnsHdrLen (closed, q') qend ∧
        Laid (RecordAt (rewrittenQuery query rcode ancount qend ++ tail)) qend rs last := by
  have hone : (dnsHeader (rewrittenQuery query rcode ancount qend ++ tail)).qdcount.toNat = 1 := by
    rw [dnsHeader_rewritten tail rcode ancount h.low h.ends.2, h.header.2.2]
    rfl
  refine ⟨fun hread => ?_, fun hread => ?_⟩
  · obtain ⟨⟨pos, hquestions, hrecords⟩, hcount⟩ := hread
    rw [hone] at hcount
    cases hquestions with
    | nil => exact absurd hcount (by simp)
    | @cons _ mid _ first rest hfirst hrest =>
        obtain rfl := List.length_eq_zero_iff.mp (show rest.length = 0 by simpa using hcount)
        cases hrest with
        | nil =>
            obtain ⟨closed, q'⟩ := first
            obtain rfl := (h.question_rewritten tail rcode ancount |>.mp hfirst).2.2.2
            exact ⟨closed, q', rfl, hfirst, hrecords⟩
  · obtain ⟨closed, q', rfl, hfirst, hrecords⟩ := hread
    exact ⟨⟨qend, .cons hfirst .nil, hrecords⟩, hone.symm⟩

variable (tail rcode ancount) in
/-- An answer is a response. -/
theorem isResponse_rewritten (h : AcceptedQuery query q qend) :
    IsResponse (rewrittenQuery query rcode ancount qend ++ tail) := by
  refine ⟨?_, ?_⟩
  · rw [List.length_append, length_rewrittenQuery _ _ h.low h.ends.2]
    have := h.low
    omega
  · rw [dnsHeader_rewritten tail rcode ancount h.low h.ends.2]
    exact dnsResponseFlags_qr _ _

variable (tail rcode ancount) in
/-- The counts of the sections that are never looked at are cleared. -/
theorem other_counts (h : AcceptedQuery query q qend) :
    be16At (rewrittenQuery query rcode ancount qend ++ tail) 8 = 0 ∧
      be16At (rewrittenQuery query rcode ancount qend ++ tail) 10 = 0 := by
  have hpair := be16At_rewritten tail rcode ancount h.low h.ends.2
  have hzero (i : Nat) (hlow : 8 ≤ i) (hhigh : i < 12) :
      rewrittenByte query rcode ancount qend tail i = 0 := by
    unfold rewrittenByte
    rw [if_neg (by omega), if_neg (by omega), if_neg (by omega), if_neg (by omega),
      if_pos ⟨hlow, hhigh⟩]
  refine ⟨?_, ?_⟩
  · rw [hpair, hzero 8 (by omega) (by omega), hzero 9 (by omega) (by omega)]
    rfl
  · rw [hpair, hzero 10 (by omega) (by omega), hzero 11 (by omega) (by omega)]
    rfl

end AcceptedQuery

/-! ### Answers without a record -/

/-- The question of a query is the one that came back. -/
def SameQuestion (q : DnsQuery) (m : DnsMessage) : Prop :=
  m.header.id = q.header.id ∧ ∃ q', m.question = some q' ∧ q'.name = q.question.name ∧
    q'.qtype = q.question.qtype ∧ q'.qclass = q.question.qclass

/-- What is built parses back as the same question with this rcode and no records. -/
def RefusalRight (q : DnsQuery) (bufLen : Nat) (rcode : BitVec 16)
    (built : Option (List (BitVec 8))) : Prop :=
  ∀ resp, built = some resp → resp.length ≤ bufLen ∧
    ∃ m, dnsParseMessage resp = some m ∧ SameQuestion q m ∧ m.header.flags &&& 0x0F = rcode ∧
      m.answerCount = 0 ∧ m.answers = [] ∧ be16At resp 8 = 0 ∧ be16At resp 10 = 0

section

variable {query : List (BitVec 8)} {q : DnsQuery} {qend : Nat}

theorem buildResponseBase_eq (h : AcceptedQuery query q qend) (rcode ancount : BitVec 16)
    (bufLen : Nat) :
    buildResponseBase query rcode ancount bufLen =
      if query.length ≤ bufLen then some (rewrittenQuery query rcode ancount qend) else none := by
  have hlong := h.header.1
  unfold buildResponseBase
  by_cases hroom : query.length ≤ bufLen
  · rw [if_pos hroom, if_neg (by omega), h.question]
    rfl
  · rw [if_neg hroom, if_pos (by omega)]

/-- **A refusal parses back exactly if the name of the question is kept.** -/
theorem refusalRight_iff (h : AcceptedQuery query q qend) (bufLen : Nat) {rcode : BitVec 16}
    (hrcode : rcode &&& 0x0F = rcode) :
    RefusalRight q bufLen rcode (buildResponseBase query rcode 0 bufLen) ↔
      (query.length ≤ bufLen → NameKept query q qend rcode 0 [] dnsMaxJumps) := by
  have hheader := dnsHeader_rewritten [] rcode 0 h.low h.ends.2
  rw [List.append_nil] at hheader
  rw [buildResponseBase_eq h]
  by_cases hroom : query.length ≤ bufLen
  · rw [if_pos hroom]
    refine ⟨fun hright _ => ?_, fun hkept resp hresp => ?_⟩
    · obtain ⟨-, m, hm, ⟨-, q', hq', hname, -⟩, -⟩ := hright _ rfl
      obtain ⟨-, qs, rs, last, hread, -, rfl⟩ := dnsParseMessage_iff.mp hm
      rw [← List.append_nil (rewrittenQuery query rcode 0 qend)] at hread
      obtain ⟨closed, q'', rfl, hat, -⟩ := (h.reading_rewritten [] rcode 0).mp hread
      obtain rfl : q'' = q' := Option.some.inj hq'
      obtain ⟨⟨size, jumps, hfew, hwalk, htext⟩, -⟩ := (h.question_rewritten [] rcode 0).mp hat
      exact ⟨closed, q''.labels, size, jumps, hfew, hwalk, htext, hname⟩
    · obtain rfl := Option.some.inj hresp
      obtain ⟨closed, labels, size, jumps, hfew, hwalk, htext, hname⟩ := hkept hroom
      refine ⟨by rw [length_rewrittenQuery _ _ h.low h.ends.2]; have := h.ends; omega, ?_⟩
      have hat : QuestionAt (rewrittenQuery query rcode 0 qend ++ []) dnsHdrLen
          (closed, ⟨labels, q.question.qtype, q.question.qclass⟩) qend :=
        (h.question_rewritten [] rcode 0).mpr ⟨⟨size, jumps, hfew, hwalk, htext⟩, rfl, rfl, rfl⟩
      have hread := (h.reading_rewritten [] rcode 0).mpr ⟨closed, _, rfl, hat, .nil⟩
      have hresponse := h.isResponse_rewritten [] rcode 0
      have hcounts := h.other_counts [] rcode 0
      rw [List.append_nil] at hread hresponse hcounts
      have henough : EnoughRecords (rewrittenQuery query rcode 0 qend) [] qend := by
        refine Or.inl ?_
        rw [hheader]
        rfl
      refine ⟨_, dnsParseMessage_iff.mpr ⟨hresponse, _, _, _, hread, henough, rfl⟩,
        ⟨?_, _, rfl, hname, rfl, rfl⟩, ?_, ?_, rfl, hcounts.1, hcounts.2⟩
      · show (dnsHeader _).id = _
        rw [hheader, h.header.2.1]
      · show (dnsHeader _).flags &&& 0x0F = _
        rw [hheader]
        exact (dnsResponseFlags_rcode _ _).trans hrcode
      · show min (dnsHeader _).ancount.toNat dnsMaxAnswers = 0
        rw [hheader]
        rfl
  · rw [if_neg hroom]
    exact ⟨fun _ hroom' => absurd hroom' hroom, fun _ resp hresp => absurd hresp (by simp)⟩

end

/-! ### Answers with an address -/

/-- A walk that starts at a pointer goes on where it points. -/
theorem NameWalk.of_pointer {mem : Nat → BitVec 8} {seen : Nat → Prop}
    {limit pos jumps size : Nat} {closed : Bool} {labels : List (List (BitVec 8))}
    (h : NameWalk mem seen limit closed pos jumps labels size) (hpos : pos ≠ limit)
    (hptr : 0xC0 ≤ (mem pos).toNat) :
    size = 2 ∧ ∃ jumps' size', jumps = jumps' + 1 ∧
      NameWalk mem seen limit closed (nameTarget mem pos) jumps' labels size' := by
  cases h with
  | root _ hzero => omega
  | off => exact absurd rfl hpos
  | label _ _ hle =>
      have hmax : dnsMaxLabelLen = 63 := rfl
      omega
  | @pointer _ _ _ size' _ _ _ _ _ hrest => exact ⟨rfl, _, size', rfl, hrest⟩

theorem be16At_append_right (a b : List (BitVec 8)) (k : Nat) :
    be16At (a ++ b) (a.length + k) = be16At b k := by
  have hbyte (k : Nat) : byteAt (a ++ b) (a.length + k) = byteAt b k := by
    rw [byteAt_append_right (Nat.le_add_right _ _), Nat.add_sub_cancel_left]
  show byteAt (a ++ b) (a.length + k) ++ byteAt (a ++ b) (a.length + (k + 1)) =
    byteAt b k ++ byteAt b (k + 1)
  rw [hbyte, hbyte]

theorem be32_extract (x : BitVec 32) : x.extractLsb' 16 16 ++ x.extractLsb' 0 16 = x := by
  apply BitVec.eq_of_getLsbD_eq
  intro i hi
  simp only [BitVec.getLsbD_append, BitVec.getLsbD_extractLsb']
  by_cases h : i < 16
  · simp [h]
  · simp [h, show i - 16 < 16 by omega, show 16 + (i - 16) = i by omega]

/-- The class of every record that the proxy builds. -/
def dnsClassIn : BitVec 16 := 1

/-- The fields of the record, where they stand. -/
theorem be16At_answerTail (ipAddr ttl : BitVec 32) :
    be16At (answerTail ipAddr ttl) 2 = dnsTypeA ∧ be16At (answerTail ipAddr ttl) 4 = dnsClassIn ∧
      be16At (answerTail ipAddr ttl) 6 = ttl.extractLsb' 16 16 ∧
      be16At (answerTail ipAddr ttl) 8 = ttl.extractLsb' 0 16 ∧
      be16At (answerTail ipAddr ttl) 10 = 4 := by
  refine ⟨?_, ?_, ?_, ?_, ?_⟩
  · show (0#8 ++ 1#8 : BitVec 16) = 1
    decide
  · show (0#8 ++ 1#8 : BitVec 16) = 1
    decide
  · exact be16_extract _
  · exact be16_extract _
  · show (0#8 ++ 4#8 : BitVec 16) = 4
    decide

/-- The record of an answer, after its name. -/
theorem dnsRecordAt_answerTail (front : List (BitVec 8)) (ipAddr ttl : BitVec 32)
    (labels : List (List (BitVec 8))) :
    dnsRecordAt (front ++ answerTail ipAddr ttl) labels (front.length + 2) =
      ⟨labels, dnsTypeA, dnsClassIn, ttl, 4, le32Bytes ipAddr⟩ := by
  obtain ⟨htype, hclass, hhigh, hlow, hlen⟩ := be16At_answerTail ipAddr ttl
  have hat (k : Nat) : be16At (front ++ answerTail ipAddr ttl) (front.length + 2 + k) =
      be16At (answerTail ipAddr ttl) (2 + k) := by
    rw [Nat.add_assoc]
    exact be16At_append_right _ _ _
  have httl : be32At (front ++ answerTail ipAddr ttl) (front.length + 2 + 4) = ttl := by
    unfold be32At
    rw [Nat.add_assoc (front.length + 2), hat, hat, hhigh, hlow, be32_extract]
  have hdata : ((front ++ answerTail ipAddr ttl).drop (front.length + 2 + 10)).take 4 =
      le32Bytes ipAddr := by
    rw [Nat.add_assoc, List.drop_length_add_append]
    rfl
  have hrdlength : be16At (front ++ answerTail ipAddr ttl) (front.length + 2 + 8) = 4 := by
    rw [hat, hlen]
  have htype' : be16At (front ++ answerTail ipAddr ttl) (front.length + 2) = dnsTypeA :=
    (be16At_append_right _ _ _).trans htype
  unfold dnsRecordAt
  simp only [hrdlength, httl, htype', hat 2, hclass]
  rw [if_pos (by decide), show (4 : BitVec 16).toNat = 4 from rfl, hdata]

/-- What is built parses back as the same question and one record: the question's name, and the
address and the TTL that were given. -/
def AnswerRight (q : DnsQuery) (ipAddr ttl : BitVec 32) (bufLen : Nat)
    (built : Option (List (BitVec 8))) : Prop :=
  ∀ resp, built = some resp → resp.length ≤ bufLen ∧
    ∃ m r, dnsParseMessage resp = some m ∧ SameQuestion q m ∧
      m.header.flags &&& 0x0F = dnsRcodeOk ∧ m.answerCount = 1 ∧ m.answers = [r] ∧
      r.name = q.question.name ∧ r.type = dnsTypeA ∧ r.rrClass = dnsClassIn ∧ r.ttl = ttl ∧
      r.rdlength = 4 ∧ r.rdata = le32Bytes ipAddr ∧ be16At resp 8 = 0 ∧ be16At resp 10 = 0

section

variable {query : List (BitVec 8)} {q : DnsQuery} {qend : Nat}

theorem dnsBuildResponseA_eq (h : AcceptedQuery query q qend) (ipAddr ttl : BitVec 32)
    (bufLen : Nat) :
    dnsBuildResponseA query ipAddr ttl bufLen =
      if query.length + 16 ≤ bufLen then
        some (rewrittenQuery query dnsRcodeOk 1 qend ++ answerTail ipAddr ttl)
      else none := by
  unfold dnsBuildResponseA
  by_cases hroom : query.length + 16 ≤ bufLen
  · rw [if_pos hroom, if_neg (by omega), buildResponseBase_eq h, if_pos (by omega)]
    show some _ = some _
    unfold answerTail le32Bytes
    simp only [List.append_assoc]
  · rw [if_neg hroom, if_pos (by omega)]

/-- The record of an answer has the name that stands after the header, one jump away. -/
theorem AcceptedQuery.record_rewritten (h : AcceptedQuery query q qend) (ipAddr ttl : BitVec 32)
    {rcode ancount : BitVec 16} {closed : Bool} {r : DnsRecord} {next : Nat} :
    RecordAt (rewrittenQuery query rcode ancount qend ++ answerTail ipAddr ttl) qend (closed, r)
        next ↔
      (∃ size, ∃ jumps < dnsMaxJumps,
        NameWalk (rewrittenByte query rcode ancount qend (answerTail ipAddr ttl))
            (· < qend + (answerTail ipAddr ttl).length) (qend + (answerTail ipAddr ttl).length)
            closed dnsHdrLen jumps r.labels size ∧
          (dnsText r.labels).length < dnsMaxDomainLen + 1) ∧
        r = ⟨r.labels, dnsTypeA, dnsClassIn, ttl, 4, le32Bytes ipAddr⟩ ∧ next = qend + 16 := by
  have hends := h.ends
  have hhdr : dnsHdrLen = 12 := rfl
  have hlen := length_rewrittenQuery rcode ancount h.low hends.2
  have hbyte (k : Nat) : rewrittenByte query rcode ancount qend (answerTail ipAddr ttl) (qend + k) =
      byteAt (answerTail ipAddr ttl) k := by
    rw [← byteAt_rewritten h.low hends.2, byteAt_append_right (by omega), hlen,
      Nat.add_sub_cancel_left]
  have hptr :
      0xC0 ≤ (rewrittenByte query rcode ancount qend (answerTail ipAddr ttl) qend).toNat := by
    have hat : rewrittenByte query rcode ancount qend (answerTail ipAddr ttl) qend = 0xC0 := hbyte 0
    rw [hat]
    decide
  have htarget : nameTarget (rewrittenByte query rcode ancount qend (answerTail ipAddr ttl)) qend =
      dnsHdrLen := by
    have hat : rewrittenByte query rcode ancount qend (answerTail ipAddr ttl) qend = 0xC0 := hbyte 0
    have hlow : rewrittenByte query rcode ancount qend (answerTail ipAddr ttl) (qend + 1) = 0x0C :=
      hbyte 1
    unfold nameTarget
    rw [hat, hlow]
    decide
  have htail : (answerTail ipAddr ttl).length = 16 := rfl
  have hrecord (labels : List (List (BitVec 8))) :
      dnsRecordAt (rewrittenQuery query rcode ancount qend ++ answerTail ipAddr ttl) labels
        (qend + 2) = ⟨labels, dnsTypeA, dnsClassIn, ttl, 4, le32Bytes ipAddr⟩ := by
    have hat := dnsRecordAt_answerTail (rewrittenQuery query rcode ancount qend) ipAddr ttl labels
    rwa [hlen] at hat
  refine ⟨fun hr => ?_, fun hr => ?_⟩
  · obtain ⟨size, ⟨jumps, hfew, hwalk, htext⟩, hr, hnext, -⟩ := hr
    obtain ⟨rfl, jumps', size', rfl, hrest⟩ :=
      ((nameWalk_rewritten h.low hends.2).mp hwalk).of_pointer (by omega) hptr
    rw [htarget] at hrest
    rw [hrecord] at hr
    dsimp only at hr hnext
    refine ⟨⟨size', jumps', hfew, hrest, htext⟩, hr, ?_⟩
    rw [hnext, hr]
    rfl
  · obtain ⟨⟨size, jumps, hfew, hwalk, htext⟩, hr, hnext⟩ := hr
    have hrest : NameWalk (rewrittenByte query rcode ancount qend (answerTail ipAddr ttl))
        (· < qend + (answerTail ipAddr ttl).length) (qend + (answerTail ipAddr ttl).length)
        closed qend (jumps + 1) r.labels 2 := by
      refine .pointer ?_ ?_ hptr ?_ (htarget ▸ hwalk)
      · show qend < _
        omega
      · show qend + 1 < _
        omega
      · rw [htarget]
        show dnsHdrLen < _
        omega
    refine ⟨2, ⟨jumps + 1, hfew, (nameWalk_rewritten h.low hends.2).mpr hrest, htext⟩, ?_, ?_, ?_⟩
    · rw [hrecord]
      exact hr
    · rw [hnext, hr]
      rfl
    · rw [hnext, List.length_append, hlen, htail]

/-- **An answer with an address parses back exactly if the name of the question is kept**, with a
jump to spare. -/
theorem answerRight_iff (h : AcceptedQuery query q qend) (ipAddr ttl : BitVec 32) (bufLen : Nat) :
    AnswerRight q ipAddr ttl bufLen (dnsBuildResponseA query ipAddr ttl bufLen) ↔
      (query.length + 16 ≤ bufLen →
        NameKept query q qend dnsRcodeOk 1 (answerTail ipAddr ttl) (dnsMaxJumps - 1)) := by
  have hmax : dnsMaxJumps = 128 := rfl
  have hends := h.ends
  have hheader := dnsHeader_rewritten (answerTail ipAddr ttl) dnsRcodeOk 1 h.low hends.2
  rw [dnsBuildResponseA_eq h]
  by_cases hroom : query.length + 16 ≤ bufLen
  · rw [if_pos hroom]
    refine ⟨fun hright _ => ?_, fun hkept resp hresp => ?_⟩
    · obtain ⟨-, m, r, hm, ⟨-, q', hq', hname, -⟩, -, -, hanswers, -⟩ := hright _ rfl
      obtain ⟨-, qs, rs, last, hread, -, rfl⟩ := dnsParseMessage_iff.mp hm
      obtain ⟨closed, q'', rfl, hat, hrecords⟩ := (h.reading_rewritten _ _ _).mp hread
      obtain rfl : q'' = q' := Option.some.inj hq'
      obtain ⟨⟨size, jumps, -, hwalk, htext⟩, -⟩ := (h.question_rewritten _ _ _).mp hat
      cases hrecords with
      | nil => exact absurd hanswers (by simp [messageOf])
      | @cons _ _ _ first rest hfirst _ =>
          -- The record's name is the walk of the question with a jump before it.
          obtain ⟨⟨size', jumps', hfew, hwalk', -⟩, -⟩ := (h.record_rewritten ipAddr ttl).mp hfirst
          obtain ⟨-, rfl, -, -⟩ := hwalk.unique hwalk' (Nat.lt_irrefl _)
          exact ⟨closed, q''.labels, size, jumps, by omega, hwalk, htext, hname⟩
    · obtain rfl := Option.some.inj hresp
      obtain ⟨closed, labels, size, jumps, hfew, hwalk, htext, hname⟩ := hkept hroom
      have htail : (answerTail ipAddr ttl).length = 16 := rfl
      have hlen := length_rewrittenQuery dnsRcodeOk 1 h.low hends.2
      have hat : QuestionAt (rewrittenQuery query dnsRcodeOk 1 qend ++ answerTail ipAddr ttl)
          dnsHdrLen (closed, ⟨labels, q.question.qtype, q.question.qclass⟩) qend :=
        (h.question_rewritten _ _ _).mpr ⟨⟨size, jumps, by omega, hwalk, htext⟩, rfl, rfl, rfl⟩
      have hrecord : RecordAt (rewrittenQuery query dnsRcodeOk 1 qend ++ answerTail ipAddr ttl) qend
          (closed, ⟨labels, dnsTypeA, dnsClassIn, ttl, 4, le32Bytes ipAddr⟩) (qend + 16) :=
        (h.record_rewritten ipAddr ttl).mpr ⟨⟨size, jumps, by omega, hwalk, htext⟩, rfl, rfl⟩
      have hread := (h.reading_rewritten _ _ _).mpr ⟨closed, _, rfl, hat, .cons hrecord .nil⟩
      have hresponse := h.isResponse_rewritten (answerTail ipAddr ttl) dnsRcodeOk 1
      have hcounts := h.other_counts (answerTail ipAddr ttl) dnsRcodeOk 1
      have henough : EnoughRecords (rewrittenQuery query dnsRcodeOk 1 qend ++ answerTail ipAddr ttl)
          [(closed, ⟨labels, dnsTypeA, dnsClassIn, ttl, 4, le32Bytes ipAddr⟩)] (qend + 16) := by
        refine Or.inl ?_
        rw [hheader]
        rfl
      refine ⟨by rw [List.length_append, hlen, htail]; omega, _,
        ⟨labels, dnsTypeA, dnsClassIn, ttl, 4, le32Bytes ipAddr⟩,
        dnsParseMessage_iff.mpr ⟨hresponse, _, _, _, hread, henough, rfl⟩,
        ⟨?_, _, rfl, hname, rfl, rfl⟩, ?_, ?_, rfl, hname, rfl, rfl, rfl, rfl, rfl, hcounts.1,
        hcounts.2⟩
      · show (dnsHeader _).id = _
        rw [hheader, h.header.2.1]
      · show (dnsHeader _).flags &&& 0x0F = _
        rw [hheader]
        exact dnsResponseFlags_rcode _ _
      · show min (dnsHeader _).ancount.toNat dnsMaxAnswers = 1
        rw [hheader]
        rfl
  · rw [if_neg hroom]
    exact ⟨fun _ hroom' => absurd hroom' hroom, fun _ resp hresp => absurd hresp (by simp)⟩

/-- The name of the question is kept if its walk looks only at the identifier, the count of
questions and the question itself. -/
theorem nameKept_of_inside (h : AcceptedQuery query q qend) (rcode ancount : BitVec 16)
    (tail : List (BitVec 8)) {jumpsMax jumps size : Nat} (hjumps : jumps ≤ jumpsMax)
    (hwalk : NameWalk (byteAt query) (fun i => i < 2 ∨ i = 4 ∨ i = 5 ∨ dnsHdrLen ≤ i ∧ i < qend)
      query.length true dnsHdrLen jumps q.question.labels size) :
    NameKept query q qend rcode ancount tail jumpsMax := by
  have hends := h.ends
  have hhdr : dnsHdrLen = 12 := rfl
  have hfits := (fits_of_dnsParseQuery h.parsed).short
  refine ⟨true, q.question.labels, size, jumps, hjumps, ?_, hfits, rfl⟩
  refine hwalk.transfer rfl (fun i hi => ?_) (fun i hi => ?_)
  · unfold rewrittenByte
    rw [if_neg (by omega), if_neg (by omega), if_neg (by omega), if_neg (by omega),
      if_neg (by omega), if_pos (by omega)]
  · show i < qend + tail.length
    omega

/--
**When an answer parses back.**  Whatever the query, the address, the TTL and the buffer: what is
built fits the buffer and parses back as the question, with the record or the rcode it was built
for, exactly if the name of the question is still the same after the rewriting.
-/
theorem answers_parse_back_iff (h : dnsParseQuery query = some q) (ipAddr ttl : BitVec 32)
    (bufLen : Nat) :
    ∃ qend, parseQuestion query dnsHdrLen = some (q.question, qend) ∧
      (AnswerRight q ipAddr ttl bufLen (dnsBuildResponseA query ipAddr ttl bufLen) ↔
        (query.length + 16 ≤ bufLen →
          NameKept query q qend dnsRcodeOk 1 (answerTail ipAddr ttl) (dnsMaxJumps - 1))) ∧
      (RefusalRight q bufLen dnsRcodeNxdomain (dnsBuildResponseNxdomain query bufLen) ↔
        (query.length ≤ bufLen → NameKept query q qend dnsRcodeNxdomain 0 [] dnsMaxJumps)) ∧
      (RefusalRight q bufLen dnsRcodeServfail (dnsBuildResponseServfail query bufLen) ↔
        (query.length ≤ bufLen → NameKept query q qend dnsRcodeServfail 0 [] dnsMaxJumps)) := by
  obtain ⟨qend, haccepted⟩ := exists_acceptedQuery h
  refine ⟨qend, haccepted.question, ?_, ?_, ?_⟩
  · exact answerRight_iff haccepted ipAddr ttl bufLen
  · exact refusalRight_iff haccepted bufLen (by decide)
  · exact refusalRight_iff haccepted bufLen (by decide)

/-- A query for the address of `a`, answered and parsed back. -/
theorem answers_parse_back_plain :
    AnswerRight ⟨⟨7, 0x100, 1, 0⟩, ⟨[[0x61]], 1, 1⟩⟩ 0x0100A8C0 60 512
      (dnsBuildResponseA [0, 7, 1, 0, 0, 1, 0, 0, 0, 0, 0, 0, 1, 0x61, 0, 0, 1, 0, 1]
        0x0100A8C0 60 512) := by
  have hparsed : dnsParseQuery [0, 7, 1, 0, 0, 1, 0, 0, 0, 0, 0, 0, 1, 0x61, 0, 0, 1, 0, 1] =
      some ⟨⟨7, 0x100, 1, 0⟩, ⟨[[0x61]], 1, 1⟩⟩ := by decide
  obtain ⟨qend, hquestion, hanswer, -⟩ := answers_parse_back_iff hparsed 0x0100A8C0 60 512
  have hqend : parseQuestion [0, 7, 1, 0, 0, 1, 0, 0, 0, 0, 0, 0, 1, 0x61, 0, 0, 1, 0, 1]
      dnsHdrLen = some (⟨[[0x61]], 1, 1⟩, 19) := by decide
  obtain rfl : qend = 19 := (Prod.mk.inj (Option.some.inj (hquestion.symm.trans hqend))).2
  refine hanswer.mpr fun _ => nameKept_of_inside ⟨hparsed, hquestion⟩ _ _ _ (Nat.zero_le _)
    (.label ?_ (by decide) (by decide) (.root (by decide) (by decide)))
  intro i hi
  have hle : i ≤ 1 := hi
  have hhdr : dnsHdrLen = 12 := rfl
  omega

/-- The name of a question that points into the counts of the header is lost. -/
theorem name_in_header_lost :
    dnsParseQuery [0, 7, 1, 0, 0, 1, 1, 0x61, 0, 0, 0, 0, 0xC0, 6, 0, 1, 0, 1] =
        some ⟨⟨7, 0x100, 1, 0x161⟩, ⟨[[0x61]], 1, 1⟩⟩ ∧
      ¬ AnswerRight ⟨⟨7, 0x100, 1, 0x161⟩, ⟨[[0x61]], 1, 1⟩⟩ 0x0100A8C0 60 512
        (dnsBuildResponseA [0, 7, 1, 0, 0, 1, 1, 0x61, 0, 0, 0, 0, 0xC0, 6, 0, 1, 0, 1]
          0x0100A8C0 60 512) := by
  refine ⟨by decide, fun h => ?_⟩
  have hbuilt : dnsBuildResponseA [0, 7, 1, 0, 0, 1, 1, 0x61, 0, 0, 0, 0, 0xC0, 6, 0, 1, 0, 1]
      0x0100A8C0 60 512 = some [0, 7, 0x81, 0x80, 0, 1, 0, 1, 0, 0, 0, 0, 0xC0, 6, 0, 1, 0, 1,
        0xC0, 0x0C, 0, 1, 0, 1, 0, 0, 0, 60, 0, 4, 0xC0, 0xA8, 0, 1] := by decide
  have hparsed : dnsParseMessage [0, 7, 0x81, 0x80, 0, 1, 0, 1, 0, 0, 0, 0, 0xC0, 6, 0, 1, 0, 1,
        0xC0, 0x0C, 0, 1, 0, 1, 0, 0, 0, 60, 0, 4, 0xC0, 0xA8, 0, 1] =
      some ⟨⟨⟨7, 0x8180, 1, 1⟩, some ⟨[], 1, 1⟩, 1, 60⟩,
        [⟨[], 1, 1, 60, 4, [0xC0, 0xA8, 0, 1]⟩]⟩ := by decide
  obtain ⟨-, m, r, hm, ⟨-, q', hq', hname, -⟩, -⟩ := h _ hbuilt
  rw [hparsed] at hm
  rw [← Option.some.inj hm] at hq'
  rw [← Option.some.inj hq'] at hname
  exact absurd hname (by decide)

end

end FastRG
