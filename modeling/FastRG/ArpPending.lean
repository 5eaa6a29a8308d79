/-
Packets that wait for a MAC: `arp_pending_enqueue`, `arp_pending_drain` and `arp_pending_flush` of
`mac_table.c`, and their callers.

The functions run on several lcores at once, so each is cut where it touches the ring or the pool.
A call of `arp_pending_enqueue` stands in a list as long as it lasts, with what is left of it; the
control lcore drains or flushes, one at a time.  The pool serves the queues of all subscribers, and
the others take from it and give back when they like.

A packet has the number of the call that brought it.  The callers of `arp_pending_enqueue` do not
look at what it returns, so a packet it refuses without freeing it stays where it is.
-/
import FastRG.Lib.Run
import FastRG.Common

namespace FastRG

def arpPendingQueueSize : Nat := 64

/-- What a ring of `ARP_PENDING_QUEUE_SIZE` holds. -/
def arpPendingCapacity : Nat := 63

/-- `arp_pending_pkt_t`, with its place in the pool. -/
structure ArpPendingPkt where
  slot : Nat
  mbuf : Nat
  targetIp : BitVec 32
  txQueue : BitVec 16
  deriving DecidableEq

/-- Where a call of `arp_pending_enqueue` is: before the first try, after it has found the ring
full, with the oldest entry in hand and how many there were, or before the second try. -/
inductive ArpEnqueueAt
  | enqueue (entry : ArpPendingPkt)
  | full (entry : ArpPendingPkt)
  | dropping (entry oldest : ArpPendingPkt) (count : Nat)
  | retry (entry : ArpPendingPkt)

/-- `arp_pending_drain` on its way through the batch. -/
structure ArpDrain where
  resolvedIp : BitVec 32
  mac : BitVec 48
  txMax : Nat
  txCount : Nat
  batch : List ArpPendingPkt

/-- Where the control lcore is. -/
inductive ArpControlAt
  | idle
  | drain (d : ArpDrain)
  | flush
  | flushing (e : ArpPendingPkt)

/-- Why a packet has been freed: as the oldest of so many, by a flush, as the ring had no room for
it to come back, or as it had none for the second try. -/
inductive ArpDrop
  | oldest (count : Nat)
  | flush
  | reenqueue
  | retry
  deriving DecidableEq

/-- A packet that has left, with the MAC it was given. -/
structure ArpSent where
  pkt : ArpPendingPkt
  dstMac : BitVec 48
  deriving DecidableEq

/-- A queue, its pool, the lcores at work on it, and what has happened so far. -/
structure ArpPending where
  ring : List ArpPendingPkt
  pool : List Nat
  /-- What the queues of other subscribers have of the pool. -/
  others : List Nat
  inFlight : List ArpEnqueueAt
  control : ArpControlAt
  calls : Nat
  /-- The addresses that have been resolved, with their MACs. -/
  resolved : List (BitVec 32 × BitVec 48)
  queued : List ArpPendingPkt
  sent : List ArpSent
  dropped : List (ArpPendingPkt × ArpDrop)
  /-- The packets of calls that returned `ERROR` and freed nothing. -/
  refused : List Nat

/-- What the lcores do, and the others. -/
inductive ArpLabel
  /-- A data lcore calls `arp_pending_enqueue`. -/
  | call (targetIp : BitVec 32) (txQueue : BitVec 16)
  /-- A call goes on. -/
  | advance (i : Nat)
  /-- The control lcore begins `arp_pending_drain`, or `arp_pending_flush`, and goes on. -/
  | drain (resolvedIp : BitVec 32) (mac : BitVec 48) (txMax : Nat)
  | flush
  | control
  /-- Another queue takes an entry of the pool, or gives one back. -/
  | othersGet
  | othersPut (i : Nat)

namespace ArpPending

def init (pool others : List Nat) : ArpPending :=
  ⟨[], pool, others, [], .idle, 0, [], [], [], [], []⟩

/-- `rte_pktmbuf_free` and `rte_mempool_put` for an entry. -/
def drop (s : ArpPending) (e : ArpPendingPkt) (why : ArpDrop) : ArpPending :=
  { s with dropped := s.dropped ++ [(e, why)], pool := s.pool ++ [e.slot] }

/-- `rte_mempool_get`, and the entry filled in. -/
def call (s : ArpPending) (targetIp : BitVec 32) (txQueue : BitVec 16) : ArpPending :=
  match s.pool with
  | [] => { s with calls := s.calls + 1, refused := s.refused ++ [s.calls] }
  | slot :: pool =>
      { s with
        pool
        calls := s.calls + 1
        inFlight := s.inFlight ++ [.enqueue ⟨slot, s.calls, targetIp, txQueue⟩] }

/-- An entry is in the ring, and its call returns. -/
def push (s : ArpPending) (i : Nat) (entry : ArpPendingPkt) : ArpPending :=
  { s with
    ring := s.ring ++ [entry]
    queued := s.queued ++ [entry]
    inFlight := s.inFlight.eraseIdx i }

/-- The next step of a call of `arp_pending_enqueue`. -/
def advance (s : ArpPending) (i : Nat) : ArpPending :=
  match s.inFlight[i]? with
  | none => s
  | some (.enqueue entry) =>
      if s.ring.length < arpPendingCapacity then s.push i entry
      else { s with inFlight := s.inFlight.set i (.full entry) }
  | some (.full entry) =>
      match s.ring with
      | [] => { s with inFlight := s.inFlight.set i (.retry entry) }
      | oldest :: ring =>
          { s with ring, inFlight := s.inFlight.set i (.dropping entry oldest s.ring.length) }
  | some (.dropping entry oldest count) =>
      { s.drop oldest (.oldest count) with inFlight := s.inFlight.set i (.retry entry) }
  | some (.retry entry) =>
      if s.ring.length < arpPendingCapacity then s.push i entry
      else { s.drop entry .retry with inFlight := s.inFlight.eraseIdx i }

/-- `rte_ring_dequeue_burst` of `arp_pending_drain`. -/
def beginDrain (s : ArpPending) (resolvedIp : BitVec 32) (mac : BitVec 48) (txMax : Nat) :
    ArpPending :=
  match s.control with
  | .idle =>
      { s with
        ring := s.ring.drop arpPendingQueueSize
        resolved := s.resolved ++ [(resolvedIp, mac)]
        control := .drain ⟨resolvedIp, mac, txMax, 0, s.ring.take arpPendingQueueSize⟩ }
  | _ => s

/-- The loop of `arp_pending_drain`, for one entry. -/
def drainNext (s : ArpPending) (d : ArpDrain) (e : ArpPendingPkt) (batch : List ArpPendingPkt) :
    ArpPending :=
  if e.targetIp = d.resolvedIp ∧ d.txCount < d.txMax then
    { s with
      sent := s.sent ++ [⟨e, d.mac⟩]
      pool := s.pool ++ [e.slot]
      control := .drain { d with txCount := d.txCount + 1, batch } }
  else if s.ring.length < arpPendingCapacity then
    { s with ring := s.ring ++ [e], control := .drain { d with batch } }
  else { s.drop e .reenqueue with control := .drain { d with batch } }

def beginFlush (s : ArpPending) : ArpPending :=
  match s.control with
  | .idle => { s with control := .flush }
  | _ => s

/-- The next step of the control lcore. -/
def controlNext (s : ArpPending) : ArpPending :=
  match s.control with
  | .idle => s
  | .drain d =>
      match d.batch with
      | [] => { s with control := .idle }
      | e :: batch => s.drainNext d e batch
  | .flush =>
      match s.ring with
      | [] => { s with control := .idle }
      | e :: ring => { s with ring, control := .flushing e }
  | .flushing e => { s.drop e .flush with control := .flush }

def othersGet (s : ArpPending) : ArpPending :=
  match s.pool with
  | [] => s
  | slot :: pool => { s with pool, others := s.others ++ [slot] }

def othersPut (s : ArpPending) (i : Nat) : ArpPending :=
  match s.others[i]? with
  | none => s
  | some slot => { s with others := s.others.eraseIdx i, pool := s.pool ++ [slot] }

/-- One step of anyone. -/
def step (s : ArpPending) : ArpLabel → ArpPending
  | .call targetIp txQueue => s.call targetIp txQueue
  | .advance i => s.advance i
  | .drain resolvedIp mac txMax => s.beginDrain resolvedIp mac txMax
  | .flush => s.beginFlush
  | .control => s.controlNext
  | .othersGet => s.othersGet
  | .othersPut i => s.othersPut i

end ArpPending

end FastRG
