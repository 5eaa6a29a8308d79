/-
The static records of a subscriber with their count: `dns_static.c` and the three functions of
`northbound.c` that change them.

The count is only reported, so the node's own functions leave it out.  Here the table has it: an
addition to an empty slot counts up and a removal counts down, in 32 bits.
-/
import FastRG.Northbound

namespace FastRG

/-- `dns_static_table_t`, its count too. -/
structure DnsStaticCounted where
  records : DnsStaticTable
  count : BitVec 32
  deriving DecidableEq

namespace DnsStaticCounted

/-- `dns_static_init`. -/
def init : DnsStaticCounted := ⟨DnsStatic.init, 0⟩

/-- `dns_static_add`. -/
def add (t : DnsStaticCounted) (domain : List (BitVec 8)) (ipAddr ttl : BitVec 32) :
    Status × DnsStaticCounted :=
  let ttl := if ttl = 0 then dnsStaticDefaultTtl else ttl
  let renew := Option.map fun r : DnsStaticRecord => { r with ipAddr := ipAddr, ttl := ttl }
  match DnsStatic.replaceFirst (DnsStatic.isFor domain) renew t.records with
  | some records => (.success, { t with records := records })
  | none =>
      let r : DnsStaticRecord := ⟨(domain.take dnsMaxDomainLen).map toLower, ipAddr, ttl⟩
      match DnsStatic.replaceFirst Option.isNone (fun _ => some r) t.records with
      | some records => (.success, ⟨records, t.count + 1⟩)
      | none => (.error, t)

/-- `dns_static_remove`. -/
def remove (t : DnsStaticCounted) (domain : List (BitVec 8)) : Status × DnsStaticCounted :=
  match DnsStatic.replaceFirst (DnsStatic.isFor domain) (fun _ => none) t.records with
  | some records => (.success, ⟨records, t.count - 1⟩)
  | none => (.error, t)

/-- `apply_dns_record` on the subscriber's table. -/
def applyRecord (t : DnsStaticCounted) (record : DnsRecordConfig) : Status × DnsStaticCounted :=
  match inetPton record.ip with
  | none => (.error, t)
  | some ip => t.add record.domain ip (if record.ttl = 0 then 3600 else record.ttl)

/-- The second pass of `apply_dns_record_set`, at one stale domain: `remove_dns_record`. -/
def removeStale (r : Status × DnsStaticCounted) (domain : List (BitVec 8)) :
    Status × DnsStaticCounted :=
  match r.2.remove domain with
  | (.success, t) => (r.1, t)
  | (.error, t) => (.error, t)

/-- The third pass, at one record. -/
def setRecord (r : Status × DnsStaticCounted) (record : DnsRecordConfig) :
    Status × DnsStaticCounted :=
  let ttl := if record.ttl = 0 then 3600 else record.ttl
  let here := (DnsStatic.lookup r.2.records record.domain).any fun e =>
    some e.ipAddr == inetPton record.ip && e.ttl == ttl
  if here then r
  else
    match r.2.applyRecord record with
    | (.success, t) => (r.1, t)
    | (.error, t) => (.error, t)

/-- `apply_dns_record_set` on the subscriber's table. -/
def applyRecordSet (t : DnsStaticCounted) (records : List DnsRecordConfig) :
    Status × DnsStaticCounted :=
  let records := records.take dnsStaticMaxRecords
  if records.any (fun r => inetPton r.ip = none) then (.error, t)
  else
    let stale := Node.staleDomains records t.records
    records.foldl setRecord (stale.foldl removeStale (.success, t))

end DnsStaticCounted

/-- What changes the static records of a subscriber. -/
inductive DnsStaticOp
  | applyRecord (record : DnsRecordConfig)
  | removeRecord (domain : List (BitVec 8))
  | applyRecordSet (records : List DnsRecordConfig)
  deriving DecidableEq

/-- One change. -/
def DnsStaticCounted.step (t : DnsStaticCounted) : DnsStaticOp → DnsStaticCounted
  | .applyRecord record => (t.applyRecord record).2
  | .removeRecord domain => (t.remove domain).2
  | .applyRecordSet records => (t.applyRecordSet records).2

end FastRG
