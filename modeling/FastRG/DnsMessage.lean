/-
Messages of the DNS codec in full: `dns_codec.c`.

The proxy looks at little of a response, and the model of the proxy keeps only that.  Here is the
parser again with the records it copies out, and with the offset of every byte it looks at.
-/
import FastRG.DnsCodec
import FastRG.PacketReads

namespace FastRG

/-! ### Names -/

/-- The loop of `dns_parse_name`, with what it reads. -/
def dnsParseNameFromRd (pkt : List (BitVec 8)) (offset nameMax : Nat) :
    Nat → Nat → Nat → Nat → List (List (BitVec 8)) → Rd (Option DnsName)
  | 0, _, _, _, _ => pure none
  | fuel + 1, pos, consumed, jumps, labels =>
      if pkt.length ≤ pos then pure (some ⟨labels, consumed⟩)
      else do
        let labelLen ← Rd.u8 (byteAt pkt) pos
        let len := labelLen.toNat
        if len = 0 then pure (some ⟨labels, if jumps = 0 then pos - offset + 1 else consumed⟩)
        else if 0xC0 ≤ len then
          if pkt.length ≤ pos + 1 then pure none
          else do
            let low ← Rd.u8 (byteAt pkt) (pos + 1)
            let ptr := (len - 0xC0) * 256 + low.toNat
            if pkt.length ≤ ptr then pure none
            else if dnsMaxJumps < jumps + 1 then pure none
            else
              dnsParseNameFromRd pkt offset nameMax fuel ptr
                (if jumps = 0 then pos - offset + 2 else consumed) (jumps + 1) labels
        else if dnsMaxLabelLen < len then pure none
        else if pkt.length < pos + 1 + len then pure none
        else if dnsTextRoom nameMax labels len = false then pure none
        else do
          let label ← Rd.bytes (byteAt pkt) (pos + 1) len
          dnsParseNameFromRd pkt offset nameMax fuel (pos + 1 + len)
            (if jumps = 0 then pos + 1 + len - offset else consumed) jumps (labels ++ [label])

/-- `dns_parse_name`, for a buffer of any size. -/
def dnsParseNameRd (pkt : List (BitVec 8)) (offset nameMax : Nat) : Rd (Option DnsName) :=
  if nameMax = 0 then pure none
  else
    (dnsParseNameFromRd pkt offset nameMax (dnsParseFuel pkt) offset 0 0 []).andThen fun name =>
      pure (if name.consumed = 0 then none else some name)

/-! ### Questions and records -/

/-- `parse_question`. -/
def parseQuestionRd (pkt : List (BitVec 8)) (offset : Nat) : Rd (Option (DnsQuestion × Nat)) :=
  (dnsParseNameRd pkt offset (dnsMaxDomainLen + 1)).andThen fun name => do
    let pos := offset + name.consumed
    if pkt.length < pos + 4 then pure none
    else do
      let qtype ← Rd.be16 (byteAt pkt) pos
      let qclass ← Rd.be16 (byteAt pkt) (pos + 2)
      pure (some (⟨name.labels, qtype, qclass⟩, pos + 4))

/-- The room for the data of a record. -/
def dnsRdataLen : Nat := 256

/-- `dns_rr_t`.  Data that does not fit is not copied. -/
structure DnsRecord where
  labels : List (List (BitVec 8))
  type : BitVec 16
  rrClass : BitVec 16
  ttl : BitVec 32
  rdlength : BitVec 16
  rdata : List (BitVec 8)
  deriving DecidableEq

/-- The `name` of a record: what is in `name_buf`, in lower case. -/
def DnsRecord.name (r : DnsRecord) : List (BitVec 8) := (cString (dnsText r.labels)).map toLower

/-- A record that has been cleared. -/
def DnsRecord.zero : DnsRecord := ⟨[], 0, 0, 0, 0, []⟩

/-- The data of a record, copied if there is room for it. -/
def rdataRd (pkt : List (BitVec 8)) (pos rdlength : Nat) : Rd (List (BitVec 8)) :=
  if rdlength ≤ dnsRdataLen then Rd.bytes (byteAt pkt) pos rdlength else pure []

/-- One round of `parse_rr_section`: the record at an offset, and where it ends. -/
def parseRrRd (pkt : List (BitVec 8)) (offset : Nat) : Rd (Option (DnsRecord × Nat)) :=
  (dnsParseNameRd pkt offset (dnsMaxDomainLen + 1)).andThen fun name => do
    let pos := offset + name.consumed
    if pkt.length < pos + 10 then pure none
    else do
      let type ← Rd.be16 (byteAt pkt) pos
      let rrClass ← Rd.be16 (byteAt pkt) (pos + 2)
      let ttl ← Rd.be32 (byteAt pkt) (pos + 4)
      let rdlength ← Rd.be16 (byteAt pkt) (pos + 8)
      if pkt.length < pos + 10 + rdlength.toNat then pure none
      else do
        let rdata ← rdataRd pkt (pos + 10) rdlength.toNat
        pure (some (⟨name.labels, type, rrClass, ttl, rdlength, rdata⟩,
          pos + 10 + rdlength.toNat))

/-- The loop of `parse_rr_section`, which also stops at the end of the message. -/
def parseRrsRd (pkt : List (BitVec 8)) : Nat → Nat → Rd (Option (List DnsRecord × Nat))
  | 0, pos => pure (some ([], pos))
  | n + 1, pos =>
      if pkt.length ≤ pos then pure (some ([], pos))
      else
        (parseRrRd pkt pos).andThen fun first =>
          (parseRrsRd pkt n first.2).andThen fun rest =>
            pure (some (first.1 :: rest.1, rest.2))

/-- The loop over the questions of a response. -/
def parseQuestionsRd (pkt : List (BitVec 8)) : Nat → Nat → Rd (Option (List DnsQuestion × Nat))
  | 0, pos => pure (some ([], pos))
  | n + 1, pos =>
      (parseQuestionRd pkt pos).andThen fun first =>
        (parseQuestionsRd pkt n first.2).andThen fun rest =>
          pure (some (first.1 :: rest.1, rest.2))

/-- The lowest TTL that is not zero, as the loop goes over the records. -/
def lowestTtl (minTtl : Nat) : List DnsRecord → Nat
  | [] => minTtl
  | r :: rest =>
      let ttl := r.ttl.toNat
      lowestTtl (if 0 < ttl ∧ (ttl < minTtl ∨ minTtl = 0) then ttl else minTtl) rest

/-! ### Responses -/

/-- `dns_message_t`, of a response: what the proxy looks at, and the records copied out. -/
structure DnsMessage extends DnsResponse where
  answers : List DnsRecord
  deriving DecidableEq

/-- `answers[i]`, which is cleared where nothing was copied. -/
def DnsMessage.answer (m : DnsMessage) (i : Nat) : DnsRecord := m.answers.getD i .zero

/-- `dns_parse_response`. -/
def dnsParseMessageRd (data : List (BitVec 8)) : Rd (Option DnsMessage) :=
  if data.length < dnsHdrLen then pure none
  else do
    let id ← Rd.be16 (byteAt data) 0
    let flags ← Rd.be16 (byteAt data) 2
    let qdcount ← Rd.be16 (byteAt data) 4
    let ancount ← Rd.be16 (byteAt data) 6
    -- The counts of the sections that are never looked at.
    let _nscount ← Rd.be16 (byteAt data) 8
    let _arcount ← Rd.be16 (byteAt data) 10
    if flags &&& dnsFlagQr = 0 then pure none
    else
      (parseQuestionsRd data qdcount.toNat dnsHdrLen).andThen fun questions =>
        (parseRrsRd data ancount.toNat questions.2).andThen fun records =>
          pure (some
            { header := ⟨id, flags, qdcount, ancount⟩
              question := questions.1.head?
              answerCount := min ancount.toNat dnsMaxAnswers
              minTtl := lowestTtl 0 records.1
              answers := records.1.take dnsMaxAnswers })

/-- What `dns_parse_response` makes of a message. -/
def dnsParseMessage (data : List (BitVec 8)) : Option DnsMessage := (dnsParseMessageRd data).val

end FastRG
