/-
The DNS cache of a subscriber, `dns_cache.c`, and its table of static records, `dns_static.c`.

The cache is a hash table of chains.  An entry that has outlived its TTL goes when a lookup
comes across it, or when a full cache makes room in the chain of a new one.  The domain of an
entry is a C string, and two domains are the same if they are so in lower case.

A static record that is not active has no contents, so a slot of the table is a record or
nothing.
-/
import FastRG.DnsCodec
import Mathlib.Data.List.MinMax

namespace FastRG

def dnsCacheBucketCount : Nat := 256
def dnsCacheMaxEntries : Nat := 512
def dnsCacheMinTtl : Nat := 60

/-- `dns_cache_entry_t`. -/
structure DnsCacheEntry where
  domain : List (BitVec 8)
  qtype : BitVec 16
  response : List (BitVec 8)
  ttl : Nat
  insertTime : Nat
  deriving DecidableEq

/-- `dns_cache_t`. -/
structure DnsCache where
  buckets : Nat → List DnsCacheEntry
  entryCount : Nat

namespace DnsCache

/-- `dns_cache_init`, and what `dns_cache_flush` leaves. -/
def empty : DnsCache := ⟨fun _ => [], 0⟩

/-- One step of the FNV-1a hash. -/
def hashStep (hash x : BitVec 32) : BitVec 32 := (hash ^^^ x) * 16777619

/-- `dns_cache_hash`. -/
def hash (domain : List (BitVec 8)) (qtype : BitVec 16) : Nat :=
  let h := domain.foldl (fun h b => hashStep h ((toLower b).setWidth 32)) 2166136261
  (hashStep h (qtype.setWidth 32)).toNat % dnsCacheBucketCount

/-- The entry is for this domain and type. -/
def isFor (domain : List (BitVec 8)) (qtype : BitVec 16) (e : DnsCacheEntry) : Bool :=
  domainEq e.domain domain && e.qtype == qtype

/-- The entry has outlived its TTL. -/
def expired (hz now : Nat) (e : DnsCacheEntry) : Bool := e.ttl * hz ≤ now - e.insertTime

def setBucket (c : DnsCache) (idx : Nat) (chain : List DnsCacheEntry) (count : Nat) : DnsCache :=
  ⟨fun i => if i = idx then chain else c.buckets i, count⟩

/-- `dns_cache_lookup`. -/
def lookup (hz now : Nat) (c : DnsCache) (domain : List (BitVec 8)) (qtype : BitVec 16) :
    Option DnsCacheEntry × DnsCache :=
  let idx := hash domain qtype
  match (c.buckets idx).find? (isFor domain qtype) with
  | none => (none, c)
  | some e =>
      if expired hz now e then
        (none, c.setBucket idx ((c.buckets idx).eraseP (isFor domain qtype)) (c.entryCount - 1))
      else (some e, c)

/-- Room in a chain of a full cache: what has expired goes, and then the oldest, if need be. -/
def makeRoom (hz now : Nat) (c : DnsCache) (idx : Nat) : DnsCache :=
  let swept := (c.buckets idx).filter fun e => !expired hz now e
  let count := c.entryCount - ((c.buckets idx).length - swept.length)
  match swept.argmin DnsCacheEntry.insertTime with
  | some oldest =>
      if dnsCacheMaxEntries ≤ count then c.setBucket idx (swept.erase oldest) (count - 1)
      else c.setBucket idx swept count
  | none => c.setBucket idx swept count

/-- The first entry of a chain for a domain and type, with a new response. -/
def renew (domain : List (BitVec 8)) (qtype : BitVec 16) (response : List (BitVec 8))
    (ttl now : Nat) : List DnsCacheEntry → List DnsCacheEntry
  | [] => []
  | e :: rest =>
      if isFor domain qtype e then
        { e with response := response, ttl := ttl, insertTime := now } :: rest
      else e :: renew domain qtype response ttl now rest

/-- `dns_cache_insert`. -/
def insert (hz now : Nat) (c : DnsCache) (domain : List (BitVec 8)) (qtype : BitVec 16)
    (response : List (BitVec 8)) (ttl : Nat) : DnsCache :=
  let ttl := if ttl = 0 then dnsCacheMinTtl else ttl
  let idx := hash domain qtype
  if response.length = 0 ∨ dnsMaxPacketLen < response.length then c
  else if (c.buckets idx).any (isFor domain qtype) then
    c.setBucket idx (renew domain qtype response ttl now (c.buckets idx)) c.entryCount
  else
    let c := if dnsCacheMaxEntries ≤ c.entryCount then makeRoom hz now c idx else c
    let e : DnsCacheEntry :=
      ⟨(domain.take dnsMaxDomainLen).map toLower, qtype, response, ttl, now⟩
    c.setBucket idx (e :: c.buckets idx) (c.entryCount + 1)

end DnsCache

/-! ### Static records -/

def dnsStaticMaxRecords : Nat := 64
def dnsStaticDefaultTtl : BitVec 32 := 3600

/-- `dns_static_record_t`. -/
structure DnsStaticRecord where
  domain : List (BitVec 8)
  ipAddr : BitVec 32
  ttl : BitVec 32
  deriving DecidableEq

/-- `dns_static_table_t`. -/
abbrev DnsStaticTable := List (Option DnsStaticRecord)

namespace DnsStatic

/-- `dns_static_init` and `dns_static_cleanup`. -/
def init : DnsStaticTable := List.replicate dnsStaticMaxRecords none

/-- The slot holds a record of this domain. -/
def isFor (domain : List (BitVec 8)) (r : Option DnsStaticRecord) : Bool :=
  r.any fun r => domainEq r.domain domain

/-- `dns_static_lookup`. -/
def lookup (table : DnsStaticTable) (domain : List (BitVec 8)) : Option DnsStaticRecord :=
  (table.find? (isFor domain)).join

/-- A record written to the first slot that meets a condition. -/
def replaceFirst (p : Option DnsStaticRecord → Bool) (f : Option DnsStaticRecord → Option DnsStaticRecord) :
    DnsStaticTable → Option DnsStaticTable
  | [] => none
  | r :: rest =>
      if p r then some (f r :: rest) else (replaceFirst p f rest).map (r :: ·)

/-- `dns_static_add`. -/
def add (table : DnsStaticTable) (domain : List (BitVec 8)) (ipAddr ttl : BitVec 32) :
    Status × DnsStaticTable :=
  let ttl := if ttl = 0 then dnsStaticDefaultTtl else ttl
  let renewed := replaceFirst (isFor domain)
    (Option.map fun r => { r with ipAddr := ipAddr, ttl := ttl }) table
  let added := replaceFirst Option.isNone
    (fun _ => some ⟨(domain.take dnsMaxDomainLen).map toLower, ipAddr, ttl⟩) table
  match renewed.orElse fun _ => added with
  | some table => (.success, table)
  | none => (.error, table)

/-- `dns_static_remove`. -/
def remove (table : DnsStaticTable) (domain : List (BitVec 8)) : Status × DnsStaticTable :=
  match replaceFirst (isFor domain) (fun _ => none) table with
  | some table => (.success, table)
  | none => (.error, table)

end DnsStatic

end FastRG
