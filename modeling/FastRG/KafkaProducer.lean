/-
The Kafka producer: `kafka_producer.cpp`.

Events wait in a buffer until the broker has confirmed them; the runtime errors among them are kept
in a file too, and come back after a restart.  `librdkafka` has the messages it was handed and
reports on each of them once.  The buffer, the bindings of offline edits and the file have a lock
each, so a call is cut into the steps it makes under one of them, and other threads run in between.

What `librdkafka` and the broker decide is in the labels: whether a message is taken, which message
is reported on next, and whether it was delivered.
-/
import FastRG.ConfigSnapshot

namespace FastRG

/-! ### The file -/

/-- `KafkaWalEvent`. -/
structure KafkaWalEvent where
  seq : Int
  payload : List (BitVec 8)
  deliveryFailed : Bool
  persistent : Bool
  deriving DecidableEq

/-- A digit of `to_hex`. -/
def hexDigit (n : Nat) : BitVec 8 := BitVec.ofNat 8 (if n < 10 then 48 + n else 87 + n)

/-- `to_hex`. -/
def toHex (text : List (BitVec 8)) : List (BitVec 8) :=
  text.flatMap fun b => [hexDigit (b.toNat / 16), hexDigit (b.toNat % 16)]

/-- `nib` of `from_hex`. -/
def hexNibble (b : BitVec 8) : Option Nat :=
  let n := b.toNat
  if 48 ≤ n ∧ n ≤ 57 then some (n - 48)
  else if 97 ≤ n ∧ n ≤ 102 then some (n - 87)
  else if 65 ≤ n ∧ n ≤ 70 then some (n - 55)
  else none

/-- `from_hex`. -/
def fromHex : List (BitVec 8) → Option (List (BitVec 8))
  | [] => some []
  | [_] => none
  | a :: b :: rest => do
      let hi ← hexNibble a
      let lo ← hexNibble b
      let out ← fromHex rest
      return BitVec.ofNat 8 (hi * 16 + lo) :: out

/-- An entry of the file. -/
def walEntry (e : KafkaWalEvent) : Json :=
  ((Json.obj []).set "seq" (.int e.seq)).set "payload" (.str (toHex e.payload))

/-- `kafka_wal_serialize`. -/
def kafkaWalSerialize (events : List KafkaWalEvent) : JsonText :=
  .doc (.arr ((events.filter (·.persistent)).map walEntry))

/-- An entry read back, if it is well formed. -/
def walEvent (j : Json) : Option KafkaWalEvent :=
  match j.get "seq", j.get "payload" with
  | some (.int seq), some (.str hex) => (fromHex hex).map fun payload => ⟨seq, payload, false, true⟩
  | _, _ => none

/-- `kafka_wal_parse`.  An entry that is not well formed is dropped. -/
def kafkaWalParse (data : JsonText) : Option (List KafkaWalEvent) :=
  if data = .empty then some []
  else
    match data.parse with
    | some (.arr items) => some (items.filterMap walEvent)
    | _ => none

/-- `kafka_wal_evict_index`. -/
def kafkaWalEvictIndex (pending : List KafkaWalEvent) : Nat :=
  (pending.findIdx? fun e => !e.persistent).getD 0

/-- `MAX_WAL_EVENTS`. -/
def maxWalEvents : Nat := 100000

/-! ### Calls under way -/

/-- How far a call of `produce_event` has got. -/
inductive ProduceStage
  /-- `g_seq` is incremented. -/
  | numbered
  /-- The event is in the buffer; what was evicted for it has to lose its binding. -/
  | buffered (evicted : Option Int) (persist : Bool)
  /-- The file is next, where it is touched. -/
  | forgot (persist : Bool)
  /-- `rd_kafka_producev` is next. -/
  | persisted
  /-- `librdkafka` did not take it: the retry flag is next. -/
  | refused
  /-- The call returns, and an offline edit is bound to the sequence. -/
  | returning
  deriving DecidableEq

/-- A call of `produce_event`, with the offline edit it reports. -/
structure ProduceCall where
  event : KafkaWalEvent
  item : Option DirtyItem
  stage : ProduceStage
  deriving DecidableEq

/-- How far a run of `dr_msg_cb` has got. -/
inductive DrStage
  | failed
  | delivered
  | taken (persist : Bool)
  | persisted
  | acked (key : SnapshotKey) (editSeq : Nat)
  deriving DecidableEq

structure DrCall where
  seq : Int
  stage : DrStage
  deriving DecidableEq

/-- Events on their way back to `librdkafka`, in `replay_pending` and `retry_failed_deliveries`. -/
inductive HandOver
  | next (batch : List KafkaWalEvent)
  | refused (seq : Int) (rest : List KafkaWalEvent)
  deriving DecidableEq

/-- How far `kafka_producer_init` has got. -/
inductive InitStage
  | off
  /-- `g_ready` is set, and the file has not been read. -/
  | ready
  | loaded
  | replaying
  | running
  deriving DecidableEq

/-- `OfflineEditAck`. -/
structure OfflineEditAck where
  key : SnapshotKey
  editSeq : Nat
  deriving DecidableEq

/-- The producer, the snapshot, and what has happened so far. -/
structure Kafka where
  init : InitStage
  /-- `g_pending`. -/
  pending : List KafkaWalEvent
  /-- `g_seq`. -/
  seq : Int
  file : JsonText
  /-- The messages `librdkafka` has. -/
  inFlight : List Int
  calls : List ProduceCall
  reports : List DrCall
  replay : HandOver
  retry : HandOver
  /-- `g_offline_acks`. -/
  acks : Int → Option OfflineEditAck
  snapshot : ConfigSnapshot
  /-- The sequences `produce_event` has put into the buffer, and those it has returned. -/
  accepted : List Int
  returned : List Int
  delivered : List Int
  evicted : List Int
  /-- The offline edits reported, and the sequences whose report `dr_msg_cb` is done with. -/
  offline : List (Int × DirtyItem)
  confirmed : List Int

namespace Kafka

/-- A process that has started, with the file and the snapshot it finds. -/
def boot (file : JsonText) (snapshot : ConfigSnapshot) : Kafka where
  init := .off
  pending := []
  seq := 0
  file := file
  inFlight := []
  calls := []
  reports := []
  replay := .next []
  retry := .next []
  acks := fun _ => none
  snapshot := snapshot
  accepted := []
  returned := []
  delivered := []
  evicted := []
  offline := []
  confirmed := []

/-- `persist_wal`, if the file can be written. -/
def persistWal (s : Kafka) (written : Bool) : Kafka :=
  if written then { s with file := kafkaWalSerialize s.pending } else s

/-- `load_wal`. -/
def loadWal (s : Kafka) : Kafka :=
  let events := (kafkaWalParse s.file).getD []
  { s with pending := events, seq := (events.map (·.seq)).foldl max 0 }

/-- The first event with a sequence changed. -/
def modifyFirst (seq : Int) (f : KafkaWalEvent → KafkaWalEvent) :
    List KafkaWalEvent → List KafkaWalEvent
  | [] => []
  | e :: rest => if e.seq = seq then f e :: rest else e :: modifyFirst seq f rest

/-- `mark_delivery_failed`. -/
def markDeliveryFailed (s : Kafka) (seq : Int) : Kafka :=
  { s with pending := modifyFirst seq (fun e => { e with deliveryFailed := true }) s.pending }

/-- `take_delivered`: the event goes, and whether it was durable is told. -/
def takeDelivered (s : Kafka) (seq : Int) : Bool × Kafka :=
  match s.pending.find? fun e => e.seq = seq with
  | none => (false, s)
  | some e => (e.persistent, { s with pending := s.pending.eraseP fun e => e.seq = seq })

/-- `rd_kafka_producev` takes a message. -/
def handTo (s : Kafka) (seq : Int) : Kafka := { s with inFlight := s.inFlight ++ [seq] }

/-! ### `produce_event` -/

/-- The call begins: the sequence is taken. -/
def produce (s : Kafka) (payload : List (BitVec 8)) (durable : Bool) (item : Option DirtyItem) :
    Kafka :=
  if s.init = .off then s
  else
    { s with
      seq := s.seq + 1
      calls := s.calls ++ [⟨⟨s.seq + 1, payload, false, durable⟩, item, .numbered⟩]
      offline := s.offline ++ (item.map fun i => (s.seq + 1, i)).toList }

/-- The event put into the buffer, and another one taken out if it is full. -/
def buffer (s : Kafka) (e : KafkaWalEvent) : Option KafkaWalEvent × Kafka :=
  let pending := s.pending ++ [e]
  let s := { s with pending := pending, accepted := s.accepted ++ [e.seq] }
  if maxWalEvents < pending.length then
    match pending[kafkaWalEvictIndex pending]? with
    | none => (none, s)
    | some old =>
        (some old, { s with
          pending := pending.eraseIdx (kafkaWalEvictIndex pending)
          evicted := s.evicted ++ [old.seq] })
  else (none, s)

/-- `forget_offline_ack`. -/
def forgetOfflineAck (s : Kafka) (seq : Int) : Kafka :=
  { s with acks := Function.update s.acks seq none }

/-- `register_offline_ack`. -/
def registerOfflineAck (s : Kafka) (seq : Int) (item : DirtyItem) : Kafka :=
  { s with acks := Function.update s.acks seq (some ⟨item.key, item.editSeq⟩) }

/-- A call at its next stage. -/
def setCall (s : Kafka) (i : Nat) (c : ProduceCall) (stage : ProduceStage) : Kafka :=
  { s with calls := s.calls.set i { c with stage := stage } }

/-- The next step of a call; `ok` is whether the file is written or the message taken. -/
def callStep (s : Kafka) (i : Nat) (ok : Bool) : Kafka :=
  match s.calls[i]? with
  | none => s
  | some c =>
      match c.stage with
      | .numbered =>
          let (old, s) := s.buffer c.event
          s.setCall i c (.buffered (old.map (·.seq)) (c.event.persistent ||
            (old.map (·.persistent)).getD false))
      | .buffered none persist => s.setCall i c (.forgot persist)
      | .buffered (some old) persist => (s.forgetOfflineAck old).setCall i c (.forgot persist)
      | .forgot false => s.setCall i c .persisted
      | .forgot true => (s.persistWal ok).setCall i c .persisted
      | .persisted =>
          if ok then (s.handTo c.event.seq).setCall i c .returning else s.setCall i c .refused
      | .refused => (s.markDeliveryFailed c.event.seq).setCall i c .returning
      | .returning =>
          let s := { s with calls := s.calls.eraseIdx i, returned := s.returned ++ [c.event.seq] }
          match c.item with
          | none => s
          | some item => s.registerOfflineAck c.event.seq item

/-! ### `dr_msg_cb` -/

/-- `librdkafka` reports on a message that it has; a sequence below one is left alone. -/
def report (s : Kafka) (seq : Int) (err : Bool) : Kafka :=
  if seq ∈ s.inFlight then
    { s with
      inFlight := s.inFlight.erase seq
      reports :=
        if 0 < seq then s.reports ++ [⟨seq, if err then .failed else .delivered⟩] else s.reports
      delivered := if err then s.delivered else s.delivered ++ [seq] }
  else s

def setReport (s : Kafka) (i : Nat) (seq : Int) (stage : DrStage) : Kafka :=
  { s with reports := s.reports.set i ⟨seq, stage⟩ }

/-- The callback is over. -/
def endReport (s : Kafka) (i : Nat) (seq : Int) : Kafka :=
  { s with reports := s.reports.eraseIdx i, confirmed := s.confirmed ++ [seq] }

/-- The next step of a callback. -/
def reportStep (s : Kafka) (i : Nat) (ok : Bool) : Kafka :=
  match s.reports[i]? with
  | none => s
  | some ⟨seq, .failed⟩ =>
      { s.markDeliveryFailed seq with reports := s.reports.eraseIdx i }
  | some ⟨seq, .delivered⟩ =>
      let (durable, s) := s.takeDelivered seq
      s.setReport i seq (.taken durable)
  | some ⟨seq, .taken persist⟩ =>
      (if persist then s.persistWal ok else s).setReport i seq .persisted
  | some ⟨seq, .persisted⟩ =>
      -- `take_offline_ack`
      match s.acks seq with
      | none => s.endReport i seq
      | some ack => (s.forgetOfflineAck seq).setReport i seq (.acked ack.key ack.editSeq)
  | some ⟨seq, .acked key editSeq⟩ =>
      { s with snapshot := s.snapshot.clearDirty key editSeq }.endReport i seq

/-! ### Handing events over again -/

/-- The next event of a batch is handed over, or the one that was not taken is flagged. -/
def handOver (s : Kafka) (ok : Bool) : HandOver → Kafka × HandOver
  | .next [] => (s, .next [])
  | .next (e :: rest) => if ok then (s.handTo e.seq, .next rest) else (s, .refused e.seq rest)
  | .refused seq rest => (s.markDeliveryFailed seq, .next rest)

/-- A batch of `retry_failed_deliveries`: the events with the flag, which lose it. -/
def retryBegin (s : Kafka) : Kafka :=
  if s.init = .running ∧ s.retry = .next [] then
    { s with
      retry := .next (s.pending.filter (·.deliveryFailed))
      pending := s.pending.map fun e => { e with deliveryFailed := false } }
  else s

def retryStep (s : Kafka) (ok : Bool) : Kafka :=
  let (s, retry) := s.handOver ok s.retry
  { s with retry := retry }

def replayStep (s : Kafka) (ok : Bool) : Kafka :=
  let (s, replay) := s.handOver ok s.replay
  { s with replay := replay }

/-- The next step of `kafka_producer_init`; the poller starts once all is replayed. -/
def initStep (s : Kafka) : Kafka :=
  match s.init with
  | .off => { s with init := .ready }
  | .ready => { s.loadWal with init := .loaded }
  | .loaded => { s with init := .replaying, replay := .next s.pending }
  | .replaying => if s.replay = .next [] then { s with init := .running } else s
  | .running => s

end Kafka

/-- What may happen next. -/
inductive KafkaLabel
  | init
  | replay (ok : Bool)
  | produce (payload : List (BitVec 8)) (durable : Bool)
  /-- `offline_report_cb` for one of the copies a report has taken. -/
  | offline (n : Nat) (payload : List (BitVec 8))
  | call (i : Nat) (ok : Bool)
  | report (seq : Int) (err : Bool)
  | callback (i : Nat) (ok : Bool)
  | retryBegin
  | retry (ok : Bool)
  | snapshot (op : SnapshotOp)

/-- One step of one of the threads. -/
def kafkaStep (s : Kafka) : KafkaLabel → Kafka
  | .init => s.initStep
  | .replay ok => s.replayStep ok
  | .produce payload durable => s.produce payload durable none
  | .offline n payload =>
      match s.snapshot.copied[n]? with
      | none => s
      | some item => s.produce payload false (some item)
  | .call i ok => s.callStep i ok
  | .report seq err => s.report seq err
  | .callback i ok => s.reportStep i ok
  | .retryBegin => s.retryBegin
  | .retry ok => s.retryStep ok
  | .snapshot op => { s with snapshot := s.snapshot.step op }

end FastRG
