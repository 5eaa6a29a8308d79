/-
Who sends on which TX queue: the set-up of the ports in `init.c` and `dp.c`, the queues of the
lcores that `fastrg_start` launches, and the handoff rings.

A packet for a queue that another lcore sends on goes over the ring of that queue.  How many queues
a card has is the card's, and a card that has too few for distributor mode lowers the number of data
lcores, of both ports.
-/
import FastRG.PdumpCapture
import FastRG.Lib.Run
import Mathlib.Logic.Function.Basic

namespace FastRG

def maxDataQueues : BitVec 16 := 128
def burstSize : Nat := 32
def txHandoffRingSize : Nat := 256
def fastrgTxQueueNone : BitVec 16 := 0xffff

/-! ### The layout -/

/-- `fastrg_tx_sender_t`. -/
inductive FastrgTxSender
  | ctrlThread
  | wanData
  | lanData
  | lanCtrl
  | wanCtrl

/-- `get_tx_queue_count`. -/
def getTxQueueCount (dataQueues : BitVec 16) : BitVec 16 := dataQueues + 3

/-- `get_tx_queue_id_for_sender`. -/
def getTxQueueIdForSender (sender : FastrgTxSender) (index : BitVec 16) (port : Port)
    (dataQueues : BitVec 16) : BitVec 16 :=
  match sender with
  | .ctrlThread => if index = 0 then 0 else fastrgTxQueueNone
  | .wanData => if dataQueues ≤ index ∨ port ≠ .lan then fastrgTxQueueNone else index + 1
  | .lanData => if dataQueues ≤ index ∨ port ≠ .wan then fastrgTxQueueNone else index + 1
  | .lanCtrl =>
      if index ≠ 0 then fastrgTxQueueNone
      else if port = .lan then dataQueues + 1 else dataQueues + 2
  | .wanCtrl =>
      if index ≠ 0 then fastrgTxQueueNone
      else if port = .wan then dataQueues + 1 else dataQueues + 2

/-- `fastrg_calc_rss_queue_count`. -/
def fastrgCalcRssQueueCount (cpuCount : BitVec 32) : BitVec 16 :=
  if cpuCount ≤ 4 then 1
  else
    let dataQueueCount := ((cpuCount - 4) / 2).setWidth 16
    if maxDataQueues < dataQueueCount then maxDataQueues else dataQueueCount

/-- `fastrg_calc_queue_count`. -/
def fastrgCalcQueueCount (cpuCount : BitVec 32) : BitVec 16 := fastrgCalcRssQueueCount cpuCount + 1

/-! ### Start -/

/-- `DP_MODE_RSS` and `DP_MODE_DISTRIBUTOR`. -/
inductive DpMode
  | rss
  | distributor

/-- `PORT_INIT`, as far as it counts queues: `num_data_queues` from then on, and the port's
`tx_queue_count`.  `max` is what the card has. -/
def portInit (lcoreCount : BitVec 32) (mode : DpMode) (max n : BitVec 16) :
    Option (BitVec 16 × BitVec 16) :=
  match mode with
  | .rss =>
      let txRings := getTxQueueCount (fastrgCalcQueueCount lcoreCount - 1)
      if max < txRings then none else some (n, txRings)
  | .distributor =>
      if max < getTxQueueCount n then
        if max < 4 then none else some (max - 3, getTxQueueCount (max - 3))
      else some (n, getTxQueueCount n)

/-- `lcore.num_data_queues` and `tx_queue_count`. -/
structure TxLayout where
  numDataQueues : BitVec 16
  txQueueCount : Port → BitVec 16

/-- `get_all_lcore_id` and the loop of `init_port`, which picks a mode for each port. -/
def initPort (lcoreCount : BitVec 32) (mode : Port → DpMode) (max : Port → BitVec 16) :
    Option TxLayout := do
  let (n, lan) ← portInit lcoreCount (mode .lan) (max .lan) (fastrgCalcRssQueueCount lcoreCount)
  let (n, wan) ← portInit lcoreCount (mode .wan) (max .wan) n
  some ⟨n, fun port => if port = .lan then lan else wan⟩

namespace TxLayout

/-- The queue of an lcore: `dp_ctrl_txq_cp`, `dp_ctrl_txq_self` and `dp_ctrl_txq_opposite`, and the
`tx_queue_id` that the data lcores are launched with. -/
def txQueue (node : TxLayout) (lcore : FastrgTxSender × BitVec 16) (port : Port) : BitVec 16 :=
  getTxQueueIdForSender lcore.1 lcore.2 port node.numDataQueues

/-- `dp_tx_handoff_pkt_init` has made a ring for the queue. -/
abbrev HasRing (node : TxLayout) (queue : BitVec 16) : Prop :=
  0 < queue ∧ queue ≤ node.numDataQueues

/-- Packets for the LAN are handed over for the queue that stands in a data lcore's argument:
by `lan_data_rx` for its own, by the poller for that of the lcore that left the packet waiting for
a MAC. -/
def HandedTo (node : TxLayout) (queue : BitVec 16) : Prop :=
  ∃ i < node.numDataQueues,
    queue = node.txQueue (.lanData, i) .wan ∨ queue = node.txQueue (.wanData, i) .lan

end TxLayout

/-! ### Sending -/

/-- One `rte_eth_tx_burst`: the lcore, its own packets, and those that came over the ring. -/
structure TxBurst (α : Type) where
  lcore : FastrgTxSender × BitVec 16
  own : List α
  others : List α

/-- A queue with its ring, and what has been put on the ring and given to the card so far. -/
structure TxQueue (α : Type) where
  ring : List α
  handed : List α
  bursts : List (TxBurst α)

/-- The queues of both ports. -/
abbrev TxState (α : Type) := Port × BitVec 16 → TxQueue α

def TxState.empty {α : Type} : TxState α := fun _ => ⟨[], [], []⟩

variable {α : Type}

/-- `send_pkt_to_other_lcore`. -/
def sendPktToOtherLcore (node : TxLayout) (port : Port) (queue : BitVec 16) (pkt : α)
    (s : TxState α) : Status × TxState α :=
  let t := s (port, queue)
  if node.txQueueCount port ≤ queue then (.error, s)
  else if ¬ node.HasRing queue ∨ txHandoffRingSize ≤ t.ring.length then (.error, s)
  else (.success, Function.update s (port, queue)
    { t with ring := t.ring ++ [pkt], handed := t.handed ++ [pkt] })

/-- How many packets `check_pkt_from_other_lcore` may take from a ring.  Only the data lcores call
it; the queues of the others have no ring. -/
def checkPktFromOtherLcore (node : TxLayout) (queue : BitVec 16) (batchLen : Nat) : Nat :=
  if node.HasRing queue then burstSize - batchLen else 0

/-- What the lcores do: hand over a packet for the LAN, or send a batch with what it has room for
from the ring. -/
inductive TxAct (α : Type)
  | handOver (queue : BitVec 16) (pkt : α)
  | burst (lcore : FastrgTxSender × BitVec 16) (port : Port) (own : List α)

namespace TxLayout

/-- An lcore sends on a port where it has a queue. -/
def Allowed (node : TxLayout) : TxAct α → Prop
  | .handOver queue _ => node.HandedTo queue
  | .burst lcore port _ => node.txQueue lcore port ≠ fastrgTxQueueNone

def step (node : TxLayout) (s : TxState α) : TxAct α → TxState α
  | .handOver queue pkt => (sendPktToOtherLcore node .lan queue pkt s).2
  | .burst lcore port own =>
      let queue := node.txQueue lcore port
      let t := s (port, queue)
      let taken := checkPktFromOtherLcore node queue own.length
      Function.update s (port, queue) { t with
        ring := t.ring.drop taken
        bursts := t.bursts ++ [⟨lcore, own, t.ring.take taken⟩] }

end TxLayout

end FastRG
