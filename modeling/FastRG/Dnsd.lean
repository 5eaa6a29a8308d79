/-
The DNS proxy of a subscriber: `dnsd.c`.

A query from the LAN is answered from the static records, or from the cache, or it is forwarded
to the server in use under an identifier of the proxy's own, and a slot of the pending table
remembers who asked.  A message from the WAN is looked up in that table by its identifier, and
goes to whoever asked, with the identifier put back.

A packet is its bytes, from the Ethernet header on, with a VLAN tag and no IP options: the
PPPoE header has been taken off by then.  What is sent is an event: the DNS message, and to whom.
Checksums, lengths and the addresses of the node itself are left out.
-/
import FastRG.DnsCache

namespace FastRG

def dnsMaxPendingQueries : Nat := 32
def dnsPendingTimeoutSecs : Nat := 5
def dnsFailoverTimeoutSecs : Nat := 60

/-- Who asked, and the identifier of the question. -/
structure DnsClient where
  originalId : BitVec 16
  clientIp : BitVec 32
  clientPort : BitVec 16
  clientMac : BitVec 48
  vlanTci : BitVec 16
  deriving DecidableEq

/-- `dns_pending_query_t`. -/
structure DnsPending where
  active : Bool
  client : DnsClient
  upstreamId : BitVec 16
  qtype : BitVec 16
  domain : List (BitVec 8)
  startTsc : Nat
  deriving DecidableEq

/-- A slot that has been cleared. -/
def DnsPending.zero : DnsPending := ⟨false, ⟨0, 0, 0, 0, 0⟩, 0, 0, [], 0⟩

/-- The pending table. -/
abbrev DnsPendingTable := Fin dnsMaxPendingQueries → DnsPending

/-- `dns_proxy_state_t`. -/
structure DnsProxyState where
  cache : DnsCache
  staticTable : DnsStaticTable
  pending : DnsPendingTable
  primaryDns : BitVec 32
  secondaryDns : BitVec 32
  activeDns : BitVec 32
  lastResponseTime : Nat
  nextUpstreamId : BitVec 16
  dnsProxyEnabled : Bool

/-- What the proxy sends. -/
inductive DnsEvent
  /-- An answer of the proxy's own: a static record, or a failure. -/
  | answer (client : DnsClient) (payload : List (BitVec 8))
  | fromCache (query : DnsQuery) (client : DnsClient) (payload : List (BitVec 8))
  /-- A query to a server, under an identifier, remembered in a slot. -/
  | forward (slot : Fin dnsMaxPendingQueries) (id : BitVec 16) (client : DnsClient)
      (server : BitVec 32) (query : DnsQuery)
  /-- A response to the query that a slot remembers. -/
  | relay (slot : Fin dnsMaxPendingQueries) (id : BitVec 16) (client : DnsClient)
      (payload : List (BitVec 8))
  deriving DecidableEq

/-! ### Sessions -/

/-- `dns_proxy_init`. -/
def dnsProxyInit (now : Nat) (state : DnsProxyState) (primaryDns secondaryDns : BitVec 32) :
    DnsProxyState :=
  { state with
    cache := .empty
    primaryDns := primaryDns
    secondaryDns := secondaryDns
    activeDns := primaryDns
    lastResponseTime := now
    nextUpstreamId := 1
    pending := fun _ => .zero }

/-- `dns_proxy_cleanup`. -/
def dnsProxyCleanup (state : DnsProxyState) : DnsProxyState :=
  { state with cache := .empty, pending := fun _ => .zero }

/-- `dnsd_check_failover`. -/
def dnsdCheckFailover (hz now : Nat) (state : DnsProxyState) : DnsProxyState :=
  if state.dnsProxyEnabled = false then state
  else if state.secondaryDns = 0 then state
  else if dnsFailoverTimeoutSecs * hz ≤ now - state.lastResponseTime then
    { state with
      activeDns :=
        if state.activeDns = state.primaryDns then state.secondaryDns else state.primaryDns
      lastResponseTime := now }
  else state

/-! ### Pending queries -/

/-- The query has waited too long. -/
def DnsPending.timedOut (hz now : Nat) (p : DnsPending) : Bool :=
  dnsPendingTimeoutSecs * hz ≤ now - p.startTsc

/-- The query is active and has not timed out. -/
def DnsPending.waits (hz now : Nat) (p : DnsPending) : Bool := p.active && !p.timedOut hz now

/-- `dnsd_has_pending_query`. -/
def dnsdHasPendingQuery (hz now : Nat) (pending : DnsPendingTable) : Bool :=
  (List.finRange dnsMaxPendingQueries).any fun i => (pending i).waits hz now

/-- `find_free_pending`.  A slot that has timed out is free. -/
def findFreePending (hz now : Nat) (pending : DnsPendingTable) :
    Option (Fin dnsMaxPendingQueries) :=
  (List.finRange dnsMaxPendingQueries).find? fun i => !(pending i).waits hz now

/-- A slot given back. -/
def deactivate (pending : DnsPendingTable) (i : Fin dnsMaxPendingQueries) : DnsPendingTable :=
  Function.update pending i { pending i with active := false }

/-- `find_pending_by_upstream_id`.  The first match decides, also when it has timed out. -/
def findPendingByUpstreamId (hz now : Nat) (pending : DnsPendingTable) (id : BitVec 16) :
    Option (Fin dnsMaxPendingQueries) × DnsPendingTable :=
  let found := (List.finRange dnsMaxPendingQueries).find? fun i =>
    (pending i).active && (pending i).upstreamId == id
  match found with
  | none => (none, pending)
  | some i =>
      if (pending i).timedOut hz now then (none, deactivate pending i) else (some i, pending)

/-- The identifier after this one: zero is passed over. -/
def nextId (id : BitVec 16) : BitVec 16 := if id + 1 = 0 then 1 else id + 1

/-! ### Packets -/

/-- Where the IPv4 header and the one after it start. -/
def dnsIpOffset : Nat := 18
def dnsL4Offset : Nat := 38

/-- The DNS message in a UDP packet, if the lengths allow one. -/
def dnsUdpPayload (pkt : List (BitVec 8)) : Option (List (BitVec 8)) :=
  let udpLen := (be16At pkt (dnsL4Offset + 4)).toNat
  if pkt.length < dnsL4Offset + udpHdrLen then none
  else if udpLen < udpHdrLen + dnsHdrLen ∨ pkt.length - dnsL4Offset < udpLen then none
  else some ((pkt.drop (dnsL4Offset + udpHdrLen)).take (udpLen - udpHdrLen))

/-- The DNS message in a TCP segment, if the lengths allow one: it follows its own length. -/
def dnsTcpPayload (pkt : List (BitVec 8)) : Option (List (BitVec 8)) :=
  let tcpHdrLen := ((pkt.getD (dnsL4Offset + 12) 0) >>> 4).toNat * 4
  let ipTotal := (be16At pkt (dnsIpOffset + 2)).toNat
  let payloadLen := ipTotal - 20 - tcpHdrLen
  let payload := pkt.drop (dnsL4Offset + tcpHdrLen)
  let dnsLen := (be16At payload 0).toNat
  if pkt.length < dnsL4Offset + 20 then none
  else if tcpHdrLen < 20 ∨ pkt.length - dnsL4Offset < tcpHdrLen then none
  else if ipTotal < 20 + tcpHdrLen ∨ pkt.length - dnsIpOffset < ipTotal then none
  else if payloadLen < 2 + dnsHdrLen then none
  else if payloadLen - 2 < dnsLen ∨ dnsLen < dnsHdrLen then none
  else some ((payload.drop 2).take dnsLen)

/-- The sender of a query. -/
def dnsClientOf (pkt : List (BitVec 8)) (query : DnsQuery) : DnsClient :=
  ⟨query.header.id, le32At pkt (dnsIpOffset + 12), le16At pkt dnsL4Offset, be48At pkt 6,
    le16At pkt 14⟩

/-! ### Queries from the LAN -/

/-- An answer from the static records, which hold addresses only. -/
def dnsFromStatic (state : DnsProxyState) (query : DnsQuery) (data : List (BitVec 8)) :
    Option (List (BitVec 8)) := do
  let record ← DnsStatic.lookup state.staticTable query.question.name
  if query.question.qtype = dnsTypeA then
    dnsBuildResponseA data record.ipAddr record.ttl dnsMaxPacketLen
  else none

/-- No resolution possible. -/
def dnsServfail (client : DnsClient) (data : List (BitVec 8)) : Option DnsEvent :=
  (dnsBuildResponseServfail data dnsMaxPacketLen).map (.answer client)

/-- A query put in a slot. -/
def dnsPendingFor (now : Nat) (id : BitVec 16) (client : DnsClient) (query : DnsQuery) :
    DnsPending :=
  ⟨true, client, id, query.question.qtype, query.question.name.take dnsMaxDomainLen, now⟩

/-- The last resort of a query: the server in use. -/
def dnsForwardQuery (hz now : Nat) (dpStart : Bool) (state : DnsProxyState) (client : DnsClient)
    (query : DnsQuery) (data : List (BitVec 8)) : Option DnsEvent × DnsProxyState :=
  if dpStart ∧ state.activeDns ≠ 0 then
    let state :=
      if dnsdHasPendingQuery hz now state.pending then dnsdCheckFailover hz now state else state
    match findFreePending hz now state.pending with
    | none => (dnsServfail client data, state)
    | some i =>
        let id := state.nextUpstreamId
        (some (.forward i id client state.activeDns query),
          { state with
            pending := Function.update state.pending i (dnsPendingFor now id client query)
            nextUpstreamId := nextId id })
  else (dnsServfail client data, state)

/-- What becomes of a query that parsed: `dnsd_cp_process_lan_udp_query` from there on. -/
def dnsResolve (hz now : Nat) (dpStart : Bool) (state : DnsProxyState) (client : DnsClient)
    (query : DnsQuery) (data : List (BitVec 8)) : Option DnsEvent × DnsProxyState :=
  match dnsFromStatic state query data with
  | some payload => (some (.answer client payload), state)
  | none =>
      match state.cache.lookup hz now query.question.name query.question.qtype with
      | (some entry, cache) =>
          (some (.fromCache query client (setDnsId query.header.id entry.response)),
            { state with cache := cache })
      | (none, cache) =>
          dnsForwardQuery hz now dpStart { state with cache := cache } client query data

/-- `dnsd_cp_process_lan_udp_query`. -/
def dnsdCpProcessLanUdpQuery (hz now : Nat) (dpStart : Bool) (state : DnsProxyState)
    (pkt : List (BitVec 8)) : Option DnsEvent × DnsProxyState :=
  if state.dnsProxyEnabled = false then (none, state)
  else
    match dnsUdpPayload pkt with
    | none => (none, state)
    | some data =>
        match dnsParseQuery data with
        | none => (none, state)
        | some query => dnsResolve hz now dpStart state (dnsClientOf pkt query) query data

/-- `dnsd_cp_process_lan_tcp_query`, which answers from the static records only. -/
def dnsdCpProcessLanTcpQuery (state : DnsProxyState) (pkt : List (BitVec 8)) : Option DnsEvent := do
  if state.dnsProxyEnabled = false then none
  else
    let data ← dnsTcpPayload pkt
    let query ← dnsParseQuery data
    let payload ← dnsFromStatic state query data
    some (.answer (dnsClientOf pkt query) payload)

/-! ### Responses from the WAN -/

/-- A response worth keeping is cached, under the name and type of the query it is for. -/
def dnsCacheResponse (hz now : Nat) (cache : DnsCache) (p : DnsPending) (data : List (BitVec 8)) :
    DnsCache :=
  match dnsParseResponse data with
  | none => cache
  | some resp =>
      if resp.header.flags &&& 0x0F = dnsRcodeOk ∧ 0 < resp.answerCount then
        cache.insert hz now p.domain p.qtype (setDnsId p.client.originalId data)
          (if 0 < resp.minTtl then resp.minTtl else 60)
      else cache

/-- `dnsd_cp_process_wan_udp_response`. -/
def dnsdCpProcessWanUdpResponse (hz now : Nat) (state : DnsProxyState) (pkt : List (BitVec 8)) :
    Option DnsEvent × DnsProxyState :=
  match dnsUdpPayload pkt with
  | none => (none, state)
  | some data =>
      match findPendingByUpstreamId hz now state.pending (be16At data 0) with
      | (none, pending) => (none, { state with pending := pending })
      | (some i, pending) =>
          let p := pending i
          (some (.relay i p.upstreamId p.client (setDnsId p.client.originalId data)),
            { state with
              cache := dnsCacheResponse hz now state.cache p data
              pending := deactivate pending i
              lastResponseTime := now })

/-! ### The proxy at work -/

/-- What reaches the proxy. -/
inductive DnsCall
  | lan (dpStart : Bool) (pkt : List (BitVec 8))
  | wan (pkt : List (BitVec 8))
  /-- A session comes up, with the servers it was given. -/
  | sessionUp (primaryDns secondaryDns : BitVec 32)
  /-- A session ends. -/
  | sessionDown
  | flushCache
  | setDnsProxy (enable : Bool)
  | addRecord (domain : List (BitVec 8)) (ipAddr ttl : BitVec 32)
  | removeRecord (domain : List (BitVec 8))
  | clearRecords
  deriving DecidableEq

/-- A packet from the LAN is dispatched on its protocol. -/
def dnsdLan (hz now : Nat) (dpStart : Bool) (state : DnsProxyState) (pkt : List (BitVec 8)) :
    Option DnsEvent × DnsProxyState :=
  let proto := pkt.getD (dnsIpOffset + 9) 0
  if proto = ipprotoUdp then dnsdCpProcessLanUdpQuery hz now dpStart state pkt
  else if proto = ipprotoTcp then (dnsdCpProcessLanTcpQuery state pkt, state)
  else (none, state)

/-- One call. -/
def dnsdCall (hz now : Nat) (state : DnsProxyState) : DnsCall → Option DnsEvent × DnsProxyState
  | .lan dpStart pkt => dnsdLan hz now dpStart state pkt
  | .wan pkt => dnsdCpProcessWanUdpResponse hz now state pkt
  | .sessionUp primaryDns secondaryDns => (none, dnsProxyInit now state primaryDns secondaryDns)
  | .sessionDown => (none, dnsProxyCleanup state)
  | .flushCache => (none, { state with cache := .empty })
  | .setDnsProxy enable => (none, { state with dnsProxyEnabled := enable })
  | .addRecord domain ipAddr ttl =>
      (none, { state with staticTable := (DnsStatic.add state.staticTable domain ipAddr ttl).2 })
  | .removeRecord domain =>
      (none, { state with staticTable := (DnsStatic.remove state.staticTable domain).2 })
  | .clearRecords => (none, { state with staticTable := DnsStatic.init })

/-- The proxy, the time, and what it has sent so far, the latest first. -/
structure DnsSystem where
  proxy : DnsProxyState
  now : Nat
  log : List DnsEvent

/-- A subscriber that has just been added. -/
def DnsSystem.start : DnsSystem :=
  ⟨⟨.empty, DnsStatic.init, fun _ => .zero, 0, 0, 0, 0, 0, true⟩, 0, []⟩

/-- A call, so many cycles after the last one. -/
def DnsSystem.step (hz : Nat) (s : DnsSystem) (l : Nat × DnsCall) : DnsSystem :=
  let now := s.now + l.1
  let (event, proxy) := dnsdCall hz now s.proxy l.2
  ⟨proxy, now, event.toList ++ s.log⟩

end FastRG
