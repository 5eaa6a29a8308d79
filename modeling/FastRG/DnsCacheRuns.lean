/-
The DNS cache at work: every operation of `dns_cache.c` with its status, one after another.

The proxy's own use of the cache is in its module, where an insertion always has memory.  Here an
insertion may run out of it, after room has been made.  Each operation is one step, at a time that
does not go back, and leaves a note of what it did to the map that the cache stands for: what was
stored under which key, what was taken out, and which entry had to go for want of room.
-/
import FastRG.DnsCache

namespace FastRG

/-- What an entry is known by: its name in lower case, and its type. -/
abbrev DnsKey := List (BitVec 8) × BitVec 16

def dnsCacheKey (domain : List (BitVec 8)) (qtype : BitVec 16) : DnsKey := (domain.map toLower, qtype)

/-- What is stored under a key. -/
structure DnsValue where
  response : List (BitVec 8)
  ttl : Nat
  insertTime : Nat
  deriving DecidableEq

def DnsCacheEntry.key (e : DnsCacheEntry) : DnsKey := dnsCacheKey e.domain e.qtype

def DnsCacheEntry.value (e : DnsCacheEntry) : DnsValue := ⟨e.response, e.ttl, e.insertTime⟩

namespace DnsCache

/-- `dns_cache_insert`, with or without memory for a new entry. -/
def insertWith (alloc : Bool) (hz now : Nat) (c : DnsCache) (domain : List (BitVec 8))
    (qtype : BitVec 16) (response : List (BitVec 8)) (ttl : Nat) : Status × DnsCache :=
  let ttl := if ttl = 0 then dnsCacheMinTtl else ttl
  let idx := hash domain qtype
  if response.length = 0 ∨ dnsMaxPacketLen < response.length then (.error, c)
  else if (c.buckets idx).any (isFor domain qtype) then
    (.success, c.setBucket idx (renew domain qtype response ttl now (c.buckets idx)) c.entryCount)
  else
    let c := if dnsCacheMaxEntries ≤ c.entryCount then makeRoom hz now c idx else c
    if alloc = false then (.error, c)
    else
      let e : DnsCacheEntry :=
        ⟨(domain.take dnsMaxDomainLen).map toLower, qtype, response, ttl, now⟩
      (.success, c.setBucket idx (e :: c.buckets idx) (c.entryCount + 1))

/-- `dns_cache_remove`. -/
def remove (c : DnsCache) (domain : List (BitVec 8)) (qtype : BitVec 16) : Status × DnsCache :=
  let idx := hash domain qtype
  if (c.buckets idx).any (isFor domain qtype) then
    (.success,
      c.setBucket idx ((c.buckets idx).eraseP (isFor domain qtype)) (c.entryCount - 1))
  else (.error, c)

/-- `dns_cache_flush`: the number of entries freed. -/
def flush (c : DnsCache) : Nat × DnsCache :=
  ((List.range dnsCacheBucketCount).foldl (fun count i => count + (c.buckets i).length) 0, empty)

/-- The entry that goes when room is made in a chain and sweeping it is not enough. -/
def evicted (hz now : Nat) (c : DnsCache) (idx : Nat) : Option DnsCacheEntry :=
  let swept := (c.buckets idx).filter fun e => !expired hz now e
  let count := c.entryCount - ((c.buckets idx).length - swept.length)
  if dnsCacheMaxEntries ≤ c.entryCount ∧ dnsCacheMaxEntries ≤ count then
    swept.argmin DnsCacheEntry.insertTime
  else none

end DnsCache

/-- A call of the cache. -/
inductive DnsCacheOp
  | insert (domain : List (BitVec 8)) (qtype : BitVec 16) (response : List (BitVec 8)) (ttl : Nat)
      (alloc : Bool)
  | lookup (domain : List (BitVec 8)) (qtype : BitVec 16)
  | remove (domain : List (BitVec 8)) (qtype : BitVec 16)
  | flush
  deriving DecidableEq

/-- What a call did to the map. -/
inductive DnsCacheNote
  | stored (key : DnsKey) (value : DnsValue)
  | removed (key : DnsKey)
  | flushed
  | evicted (key : DnsKey)
  deriving DecidableEq

/-- The cache over time, and the notes so far, the last one first. -/
structure DnsCacheSystem where
  now : Nat
  cache : DnsCache
  log : List DnsCacheNote

namespace DnsCacheSystem

/-- After `dns_cache_init`. -/
def start : DnsCacheSystem := ⟨0, .empty, []⟩

/-- The notes of an insertion, the last one first. -/
def insertNotes (hz now : Nat) (c : DnsCache) (domain : List (BitVec 8)) (qtype : BitVec 16)
    (response : List (BitVec 8)) (ttl : Nat) (alloc : Bool) : List DnsCacheNote :=
  let stored := DnsCacheNote.stored (dnsCacheKey domain qtype)
    ⟨response, if ttl = 0 then dnsCacheMinTtl else ttl, now⟩
  let idx := DnsCache.hash domain qtype
  if response.length = 0 ∨ dnsMaxPacketLen < response.length then []
  else if (c.buckets idx).any (DnsCache.isFor domain qtype) then [stored]
  else
    (if alloc then [stored] else []) ++
      ((DnsCache.evicted hz now c idx).map fun e => DnsCacheNote.evicted e.key).toList

/-- One call, some time after the one before. -/
def step (hz : Nat) (s : DnsCacheSystem) (l : Nat × DnsCacheOp) : DnsCacheSystem :=
  let now := s.now + l.1
  match l.2 with
  | .insert domain qtype response ttl alloc =>
      ⟨now, (s.cache.insertWith alloc hz now domain qtype response ttl).2,
        insertNotes hz now s.cache domain qtype response ttl alloc ++ s.log⟩
  | .lookup domain qtype => ⟨now, (DnsCache.lookup hz now s.cache domain qtype).2, s.log⟩
  | .remove domain qtype =>
      ⟨now, (s.cache.remove domain qtype).2, .removed (dnsCacheKey domain qtype) :: s.log⟩
  | .flush => ⟨now, s.cache.flush.2, .flushed :: s.log⟩

end DnsCacheSystem

end FastRG
