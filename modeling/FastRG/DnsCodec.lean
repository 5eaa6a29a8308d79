/-
The DNS codec: `dns_codec.c`.

A name is read from the packet label by label, following compression pointers, and written
to a buffer with dots between the labels.  What the rest of the proxy sees of it is that
buffer as a C string: a label may hold a dot or a NUL byte, and the string does not tell.  The
model keeps the labels, so that both can be spoken of; the string is `DnsQuestion.name`.

The records of a response are read only for the lowest TTL and to see that they are there, and
only that is kept of them.
-/
import FastRG.Common

namespace FastRG

/-! ### Constants -/

def dnsPort : BitVec 16 := 53
def dnsMaxDomainLen : Nat := 253
def dnsMaxLabelLen : Nat := 63
def dnsMaxPacketLen : Nat := 512
def dnsHdrLen : Nat := 12
def dnsMaxAnswers : Nat := 16
def dnsMaxJumps : Nat := 128

def dnsFlagQr : BitVec 16 := 0x8000
def dnsFlagRa : BitVec 16 := 0x0080

def dnsRcodeOk : BitVec 16 := 0
def dnsRcodeServfail : BitVec 16 := 2
def dnsRcodeNxdomain : BitVec 16 := 3

def dnsTypeA : BitVec 16 := 1

/-! ### C strings -/

/-- `tolower`. -/
def toLower (b : BitVec 8) : BitVec 8 := if 0x41 ≤ b ∧ b ≤ 0x5a then b + 0x20 else b

/-- The C string in a buffer. -/
def cString (bs : List (BitVec 8)) : List (BitVec 8) := bs.takeWhile (· ≠ 0)

/-- `domain_eq` and `static_domain_eq`. -/
def domainEq (a b : List (BitVec 8)) : Bool := a.map toLower == b.map toLower

/-! ### Names -/

/-- A name read from a packet: its labels, and the bytes it takes where it starts. -/
structure DnsName where
  labels : List (List (BitVec 8))
  consumed : Nat
  deriving DecidableEq

/-- The labels with dots between them: `name_buf`. -/
def dnsText (labels : List (List (BitVec 8))) : List (BitVec 8) := [0x2e].intercalate labels

/-- Whether the next label, and the dot before it, fit in `name_buf`. -/
def dnsTextRoom (nameMax : Nat) (labels : List (List (BitVec 8))) (len : Nat) : Bool :=
  let out := (dnsText labels).length
  if 0 < out then out + 1 < nameMax && out + 1 + len < nameMax else out + len < nameMax

/-- The loop of `dns_parse_name`, at `pos`, after `jumps` compression pointers. -/
def dnsParseNameFrom (pkt : List (BitVec 8)) (offset nameMax : Nat) :
    Nat → Nat → Nat → Nat → List (List (BitVec 8)) → Option DnsName
  | 0, _, _, _, _ => none
  | fuel + 1, pos, consumed, jumps, labels =>
      if pkt.length ≤ pos then some ⟨labels, consumed⟩
      else
        let len := (pkt.getD pos 0).toNat
        if len = 0 then some ⟨labels, if jumps = 0 then pos - offset + 1 else consumed⟩
        else if 0xC0 ≤ len then
          let ptr := (len - 0xC0) * 256 + (pkt.getD (pos + 1) 0).toNat
          if pkt.length ≤ pos + 1 then none
          else if pkt.length ≤ ptr then none
          else if dnsMaxJumps < jumps + 1 then none
          else
            dnsParseNameFrom pkt offset nameMax fuel ptr
              (if jumps = 0 then pos - offset + 2 else consumed) (jumps + 1) labels
        else if dnsMaxLabelLen < len then none
        else if pkt.length < pos + 1 + len then none
        else if dnsTextRoom nameMax labels len = false then none
        else
          dnsParseNameFrom pkt offset nameMax fuel (pos + 1 + len)
            (if jumps = 0 then pos + 1 + len - offset else consumed) jumps
            (labels ++ [(pkt.drop (pos + 1)).take len])

/-- Steps the loop may take: a label moves on, and only so many pointers are followed. -/
def dnsParseFuel (pkt : List (BitVec 8)) : Nat := (dnsMaxJumps + 1) * (pkt.length + 1) + 1

/-- `dns_parse_name`, which reports a failure as nothing consumed. -/
def dnsParseName (pkt : List (BitVec 8)) (offset : Nat) : Option DnsName := do
  let name ← dnsParseNameFrom pkt offset (dnsMaxDomainLen + 1) (dnsParseFuel pkt) offset 0 0 []
  if name.consumed = 0 then none else some name

/-! ### Questions -/

/-- `dns_question_t`. -/
structure DnsQuestion where
  labels : List (List (BitVec 8))
  qtype : BitVec 16
  qclass : BitVec 16
  deriving DecidableEq

/-- The `name` of a question: what is in `name_buf`, in lower case. -/
def DnsQuestion.name (q : DnsQuestion) : List (BitVec 8) := (cString (dnsText q.labels)).map toLower

/-- `parse_question`: the question at an offset, and where it ends. -/
def parseQuestion (pkt : List (BitVec 8)) (offset : Nat) : Option (DnsQuestion × Nat) := do
  let name ← dnsParseName pkt offset
  let pos := offset + name.consumed
  if pkt.length < pos + 4 then none
  else some (⟨name.labels, be16At pkt pos, be16At pkt (pos + 2)⟩, pos + 4)

/-- The loop over the questions of a response. -/
def skipQuestions (pkt : List (BitVec 8)) : Nat → Nat → Option Nat
  | 0, pos => some pos
  | n + 1, pos => do
      let (_, next) ← parseQuestion pkt pos
      skipQuestions pkt n next

/-! ### Records -/

/-- `parse_rr_section`, from the record at `pos` on: the lowest TTL that is not zero. -/
def parseRrSection (pkt : List (BitVec 8)) : Nat → Nat → Nat → Option Nat
  | 0, _, minTtl => some minTtl
  | n + 1, pos, minTtl =>
      if pkt.length ≤ pos then some minTtl
      else do
        let name ← dnsParseName pkt pos
        let pos := pos + name.consumed
        if pkt.length < pos + 10 then none
        else
          let ttl := (be32At pkt (pos + 4)).toNat
          let pos := pos + 10 + (be16At pkt (pos + 8)).toNat
          if pkt.length < pos then none
          else
            parseRrSection pkt n pos
              (if 0 < ttl ∧ (ttl < minTtl ∨ minTtl = 0) then ttl else minTtl)

/-! ### Messages -/

/-- `dns_header_t`, without the counts of the sections that are never read. -/
structure DnsHeader where
  id : BitVec 16
  flags : BitVec 16
  qdcount : BitVec 16
  ancount : BitVec 16
  deriving DecidableEq

/-- The header of a message. -/
def dnsHeader (data : List (BitVec 8)) : DnsHeader :=
  ⟨be16At data 0, be16At data 2, be16At data 4, be16At data 6⟩

/-- A query that parsed. -/
structure DnsQuery where
  header : DnsHeader
  question : DnsQuestion
  deriving DecidableEq

/-- `dns_parse_query`. -/
def dnsParseQuery (data : List (BitVec 8)) : Option DnsQuery := do
  let h := dnsHeader data
  if data.length < dnsHdrLen then none
  else if h.flags &&& dnsFlagQr ≠ 0 then none
  else if h.qdcount ≠ 1 then none
  else
    let (q, _) ← parseQuestion data dnsHdrLen
    some ⟨h, q⟩

/-- A response that parsed.  Without a question there is none. -/
structure DnsResponse where
  header : DnsHeader
  question : Option DnsQuestion
  answerCount : Nat
  minTtl : Nat
  deriving DecidableEq

/-- The first question of a response, and where the last one ends. -/
def parseQuestions (data : List (BitVec 8)) : Nat → Option (Option DnsQuestion × Nat)
  | 0 => some (none, dnsHdrLen)
  | n + 1 => do
      let (q, pos) ← parseQuestion data dnsHdrLen
      let last ← skipQuestions data n pos
      some (some q, last)

/-- `dns_parse_response`. -/
def dnsParseResponse (data : List (BitVec 8)) : Option DnsResponse := do
  let h := dnsHeader data
  if data.length < dnsHdrLen then none
  else if h.flags &&& dnsFlagQr = 0 then none
  else
    let (q, pos) ← parseQuestions data h.qdcount.toNat
    let minTtl ← parseRrSection data h.ancount.toNat pos 0
    some ⟨h, q, min h.ancount.toNat dnsMaxAnswers, minTtl⟩

/-! ### Answers -/

/-- The identifier of a message replaced. -/
def setDnsId (id : BitVec 16) (data : List (BitVec 8)) : List (BitVec 8) :=
  be16Bytes id ++ data.drop 2

/-- The flags `build_response_base` sets. -/
def dnsResponseFlags (flags rcode : BitVec 16) : BitVec 16 :=
  (flags ||| dnsFlagQr ||| dnsFlagRa) &&& 0xFFF0 ||| rcode &&& 0x0F

/-- `build_response_base`, with the record counts the caller sets, and the question as the last
thing in it. -/
def buildResponseBase (query : List (BitVec 8)) (rcode ancount : BitVec 16) (bufLen : Nat) :
    Option (List (BitVec 8)) := do
  if query.length < dnsHdrLen ∨ bufLen < query.length then none
  else
    let (_, qend) ← parseQuestion query dnsHdrLen
    let head := query.take 2 ++ be16Bytes (dnsResponseFlags (be16At query 2) rcode) ++
      (query.drop 4).take 2 ++ be16Bytes ancount ++ [0, 0, 0, 0]
    some (head ++ (query.take qend).drop dnsHdrLen)

/-- `dns_build_response_a`. -/
def dnsBuildResponseA (query : List (BitVec 8)) (ipAddr ttl : BitVec 32) (bufLen : Nat) :
    Option (List (BitVec 8)) := do
  if bufLen < query.length + 16 then none
  else
    let base ← buildResponseBase query dnsRcodeOk 1 bufLen
    let ttlBytes := be16Bytes (ttl.extractLsb' 16 16) ++ be16Bytes (ttl.extractLsb' 0 16)
    let ip := swap32 ipAddr
    let ipBytes := be16Bytes (ip.extractLsb' 16 16) ++ be16Bytes (ip.extractLsb' 0 16)
    some (base ++ [0xC0, 0x0C, 0, 1, 0, 1] ++ ttlBytes ++ [0, 4] ++ ipBytes)

/-- `dns_build_response_nxdomain`. -/
def dnsBuildResponseNxdomain (query : List (BitVec 8)) (bufLen : Nat) : Option (List (BitVec 8)) :=
  buildResponseBase query dnsRcodeNxdomain 0 bufLen

/-- `dns_build_response_servfail`. -/
def dnsBuildResponseServfail (query : List (BitVec 8)) (bufLen : Nat) : Option (List (BitVec 8)) :=
  buildResponseBase query dnsRcodeServfail 0 bufLen

end FastRG
