/-
The session of the packet capture: `pdump_capture.c`.

Which subscribers are captured on which port, the compiled filters, the callbacks on the two ports,
and the file with its writer, as `fastrg_pdump_start`, `fastrg_pdump_stop` and
`fastrg_pdump_disable_ccb` leave them.  What the libraries answer while a start runs is an argument,
`PdumpLib`; how many queues a port has is the device's.  A compiled filter is known by its address,
and no address is given out twice.

What the callbacks copy and the writer writes is left out, but for one thing: the writer may find
that the file has reached its limit, and then the capture pauses.
-/
import FastRG.Common

namespace FastRG

/-! ### Data -/

/-- `LAN_PORT` and `WAN_PORT`. -/
inductive Port
  | lan
  | wan
  deriving DecidableEq

def pdumpMaxQ : Nat := 32
def pdumpMaxSizeMb : Nat := 2048
def pdumpMaxFilterLen : Nat := 1024
def pdumpMaxFilters : Nat := 32

/-- `sizeof(struct pcap_file_hdr)`. -/
def pcapFileHdrLen : Nat := 24

/-- `global_pdump_ctx`.  A callback, the ring, the pool and the file are there or `NULL`. -/
structure PdumpCtx where
  initialized : Bool
  slots : Nat
  captureOn : Port → Nat → Bool
  filter : Port → Nat → Option Nat
  anyActive : Int
  activePerPort : Port → Int
  rxCb : Port → Nat → Bool
  txCb : Port → Nat → Bool
  nbRxQ : Port → Nat
  nbTxQ : Port → Nat
  filterList : List Nat
  nbFilters : Int
  ring : Bool
  mp : Bool
  pcapFp : Bool
  pcapPath : String
  writerRunning : Bool
  writerStarted : Bool
  sizeLimit : Nat
  bytesWritten : Nat
  paused : Bool
  /-- The next address `calloc` gives out. -/
  nextFilter : Nat

/-- What the libraries answer in the course of a start.  Where one fails, the text it gives. -/
structure PdumpLib where
  compileErr : Option String
  mempoolErr : Option String
  ringErr : Option String
  fopenOk : Bool
  headerOk : Bool
  pthreadOk : Bool
  /-- Where the file goes, and the time in its name. -/
  dir : String
  time : Nat
  devInfoOk : Port → Bool
  addRxOk : Port → Nat → Bool
  addTxOk : Port → Nat → Bool

/-- How many receive and transmit queues each port has. -/
structure PdumpDev where
  nbRxQueues : Port → Nat
  nbTxQueues : Port → Nat

/-! ### Filters -/

/-- `pdump_compile_filter`: a filter is put on the list, and stays there until teardown. -/
def pdumpCompileFilter (lib : PdumpLib) (c : PdumpCtx) : Except String Nat × PdumpCtx :=
  match lib.compileErr with
  | some err => (.error err, c)
  | none =>
      (.ok c.nextFilter,
        { c with filterList := c.nextFilter :: c.filterList, nextFilter := c.nextFilter + 1 })

/-! ### Callbacks -/

/-- `pdump_register_port`. -/
def pdumpRegisterPort (dev : PdumpDev) (lib : PdumpLib) (c : PdumpCtx) (port : Port) : PdumpCtx :=
  if !lib.devInfoOk port then c
  else
    let nbRxQ := min (dev.nbRxQueues port) pdumpMaxQ
    let nbTxQ := min (dev.nbTxQueues port) pdumpMaxQ
    { c with
      nbRxQ := Function.update c.nbRxQ port nbRxQ
      nbTxQ := Function.update c.nbTxQ port nbTxQ
      rxCb := Function.update c.rxCb port fun q =>
        if q < nbRxQ then lib.addRxOk port q else c.rxCb port q
      txCb := Function.update c.txCb port fun q =>
        if q < nbTxQ then lib.addTxOk port q else c.txCb port q }

/-- `pdump_unregister_port`. -/
def pdumpUnregisterPort (c : PdumpCtx) (port : Port) : PdumpCtx :=
  { c with
    rxCb := Function.update c.rxCb port fun q =>
      if q < c.nbRxQ port then false else c.rxCb port q
    txCb := Function.update c.txCb port fun q =>
      if q < c.nbTxQ port then false else c.txCb port q }

/-! ### The session -/

/-- `pdump_capture_open`: what has been made is given back when a later step fails. -/
def pdumpCaptureOpen (lib : PdumpLib) (c : PdumpCtx) : Except String Unit × PdumpCtx :=
  let c := { c with pcapPath := lib.dir ++ "/pdump-" ++ toString lib.time ++ ".pcap" }
  match lib.mempoolErr with
  | some err => (.error ("cannot create capture mempool: " ++ err), { c with mp := false })
  | none =>
      match lib.ringErr with
      | some err =>
          (.error ("cannot create capture ring: " ++ err), { c with ring := false, mp := false })
      | none =>
          let closed := { c with pcapFp := false, ring := false, mp := false }
          if !lib.fopenOk then (.error ("cannot open " ++ c.pcapPath), closed)
          else if !lib.headerOk then (.error "cannot write pcap header", closed)
          else
            let closed := { closed with bytesWritten := pcapFileHdrLen, paused := false }
            if !lib.pthreadOk then
              (.error "cannot start writer thread", { closed with writerRunning := false })
            else
              (.ok (), { closed with
                pcapFp := true, ring := true, mp := true
                writerRunning := true, writerStarted := true })

/-- `pdump_capture_teardown`. -/
def pdumpCaptureTeardown (c : PdumpCtx) : PdumpCtx :=
  let c :=
    if c.writerStarted then { c with writerRunning := false, writerStarted := false } else c
  { c with
    pcapFp := false
    ring := false
    mp := false
    filterList := []
    nbFilters := 0
    filter := fun port ccb => if ccb < c.slots then none else c.filter port ccb }

/-- `pdump_dir_ports`, of `PDUMP_DIR_ALL`, `PDUMP_DIR_WAN` and `PDUMP_DIR_LAN`. -/
def pdumpDirPorts : Nat → List Port
  | 0 => [.wan, .lan]
  | 1 => [.wan]
  | 2 => [.lan]
  | _ => []

/-- One turn of the loop of `fastrg_pdump_start`. -/
def pdumpStartCcb (port : Port) (f : Option Nat) (c : PdumpCtx) (ccb : Nat) : PdumpCtx :=
  let c := { c with
    filter := Function.update c.filter port (Function.update (c.filter port) ccb f) }
  if c.captureOn port ccb then c
  else
    { c with
      captureOn := Function.update c.captureOn port (Function.update (c.captureOn port) ccb true)
      activePerPort := Function.update c.activePerPort port (c.activePerPort port + 1)
      anyActive := c.anyActive + 1 }

/-- One turn of the loop of `pdump_stop_range`. -/
def pdumpStopCcb (port : Port) (c : PdumpCtx) (ccb : Nat) : PdumpCtx :=
  if c.captureOn port ccb then
    { c with
      captureOn := Function.update c.captureOn port (Function.update (c.captureOn port) ccb false)
      filter := Function.update c.filter port (Function.update (c.filter port) ccb none)
      activePerPort := Function.update c.activePerPort port (c.activePerPort port - 1)
      anyActive := c.anyActive - 1 }
  else c

/-- The ids from `lo` to `hi`. -/
def ccbRange (lo hi : Nat) : List Nat := List.range' lo (hi + 1 - lo)

/-- What `fastrg_pdump_start` does for one port. -/
def pdumpStartPort (dev : PdumpDev) (lib : PdumpLib) (f : Option Nat) (lo hi : Nat)
    (c : PdumpCtx) (port : Port) : PdumpCtx :=
  let portWasIdle := c.activePerPort port = 0
  let c := (ccbRange lo hi).foldl (pdumpStartCcb port f) c
  if portWasIdle ∧ c.activePerPort port > 0 then pdumpRegisterPort dev lib c port else c

/-- What `pdump_stop_range` does for one port. -/
def pdumpStopPort (lo hi : Nat) (c : PdumpCtx) (port : Port) : PdumpCtx :=
  let c := (ccbRange lo hi).foldl (pdumpStopCcb port) c
  if c.activePerPort port = 0 then pdumpUnregisterPort c port else c

/-- `pdump_stop_range`. -/
def pdumpStopRange (dir lo hi : Nat) (c : PdumpCtx) : PdumpCtx :=
  (pdumpDirPorts dir).foldl (pdumpStopPort lo hi) c

/-! ### The calls -/

/-- `fastrg_pdump_capture_init`, when there is memory for the state. -/
def fastrgPdumpCaptureInit (maxUserCount : Nat) : PdumpCtx where
  initialized := true
  slots := maxUserCount
  captureOn := fun _ _ => false
  filter := fun _ _ => none
  anyActive := 0
  activePerPort := fun _ => 0
  rxCb := fun _ _ => false
  txCb := fun _ _ => false
  nbRxQ := fun _ => 0
  nbTxQ := fun _ => 0
  filterList := []
  nbFilters := 0
  ring := false
  mp := false
  pcapFp := false
  pcapPath := ""
  writerRunning := false
  writerStarted := false
  sizeLimit := 0
  bytesWritten := 0
  paused := false
  nextFilter := 0

/-- What a start asks for. -/
structure PdumpReq where
  dir : Nat
  subscriber : Nat
  filter : Option (List (BitVec 8))
  sizeLimitMb : Nat

/-- A filter that is there and not empty. -/
def PdumpReq.filtered (req : PdumpReq) : Bool :=
  match req.filter with
  | none => false
  | some text => !text.isEmpty

/-- The text of the error when a session has all the filters it may have. -/
def pdumpTooManyFilters : String :=
  "too many filters in this capture session; stop all captures first"

/-- The checks that `fastrg_pdump_start` and `fastrg_pdump_stop` make alike. -/
def pdumpCheck (c : PdumpCtx) (userCount dir subscriber : Nat) : Option String :=
  if !c.initialized then some "pdump capture not initialized"
  else if (pdumpDirPorts dir).isEmpty then some "invalid direction"
  else if userCount < subscriber then
    some ("subscriber " ++ toString subscriber ++ " does not exist")
  else if userCount = 0 then some "no subscribers configured"
  else none

/-- The first and the last id a call is for. -/
def pdumpLo (subscriber : Nat) : Nat := if subscriber = 0 then 0 else subscriber - 1
def pdumpHi (userCount subscriber : Nat) : Nat :=
  if subscriber = 0 then userCount - 1 else subscriber - 1

/-- The part of `fastrg_pdump_start` behind the filter: the session is opened if there is none, and
the slots are turned on. -/
def pdumpStartSlots (dev : PdumpDev) (lib : PdumpLib) (userCount : Nat) (req : PdumpReq)
    (f : Option Nat) (c : PdumpCtx) : Except String String × PdumpCtx :=
  let turnOn (c : PdumpCtx) : Except String String × PdumpCtx :=
    (.ok c.pcapPath, (pdumpDirPorts req.dir).foldl
      (pdumpStartPort dev lib f (pdumpLo req.subscriber) (pdumpHi userCount req.subscriber)) c)
  if c.anyActive = 0 then
    let sizeLimitMb :=
      if req.sizeLimitMb = 0 ∨ req.sizeLimitMb > pdumpMaxSizeMb then pdumpMaxSizeMb
      else req.sizeLimitMb
    match pdumpCaptureOpen lib { c with sizeLimit := sizeLimitMb * 1024 * 1024 } with
    | (.error err, c) => (.error err, c)
    | (.ok (), c) => turnOn c
  else if c.paused then
    (.error
      "capture paused (size limit reached); stop all captures first to start a new session", c)
  else turnOn c

/-- `fastrg_pdump_start`: the path of the file, or the reason there is none. -/
def fastrgPdumpStart (dev : PdumpDev) (lib : PdumpLib) (userCount : Nat) (req : PdumpReq)
    (c : PdumpCtx) : Except String String × PdumpCtx :=
  match pdumpCheck c userCount req.dir req.subscriber with
  | some err => (.error err, c)
  | none =>
      if pdumpMaxFilterLen < (req.filter.getD []).length then
        (.error ("filter too long (max " ++ toString pdumpMaxFilterLen ++ " bytes)"), c)
      else if req.filtered then
        if c.nbFilters ≥ pdumpMaxFilters then (.error pdumpTooManyFilters, c)
        else
          match pdumpCompileFilter lib c with
          | (.error err, c) => (.error err, c)
          | (.ok f, c) =>
              pdumpStartSlots dev lib userCount req (some f) { c with nbFilters := c.nbFilters + 1 }
      else pdumpStartSlots dev lib userCount req none c

/-- The session is over when nothing is captured any more. -/
def pdumpEndIfIdle (c : PdumpCtx) : PdumpCtx :=
  if c.anyActive = 0 then pdumpCaptureTeardown c else c

/-- `fastrg_pdump_stop`. -/
def fastrgPdumpStop (userCount dir subscriber : Nat) (c : PdumpCtx) :
    Except String Unit × PdumpCtx :=
  match pdumpCheck c userCount dir subscriber with
  | some err => (.error err, c)
  | none =>
      if c.anyActive = 0 then (.error "no capture is running", c)
      else
        (.ok (), pdumpEndIfIdle
          (pdumpStopRange dir (pdumpLo subscriber) (pdumpHi userCount subscriber) c))

/-- `fastrg_pdump_disable_ccb`. -/
def fastrgPdumpDisableCcb (toRemove currentCount : Nat) (c : PdumpCtx) : Status × PdumpCtx :=
  if !c.initialized ∨ toRemove = 0 then (.success, c)
  else if toRemove > currentCount ∨ currentCount > c.slots then (.error, c)
  else if c.anyActive > 0 then
    (.success, pdumpEndIfIdle (pdumpStopRange 0 (currentCount - toRemove) (currentCount - 1) c))
  else (.success, c)

/-! ### The system -/

/-- The capture, and how many subscribers there are. -/
structure Pdump where
  ctx : PdumpCtx
  userCount : Nat

inductive PdumpOp
  | start (lib : PdumpLib) (req : PdumpReq)
  | stop (dir subscriber : Nat)
  | disableCcb (toRemove currentCount : Nat)
  /-- The number of subscribers is changed, within what the node has room for. -/
  | setUserCount (newCount : Nat)
  /-- The writer finds that the next record would exceed the limit. -/
  | sizeLimitReached

/-- One call. -/
def Pdump.step (dev : PdumpDev) (s : Pdump) : PdumpOp → Pdump
  | .start lib req => { s with ctx := (fastrgPdumpStart dev lib s.userCount req s.ctx).2 }
  | .stop dir subscriber => { s with ctx := (fastrgPdumpStop s.userCount dir subscriber s.ctx).2 }
  | .disableCcb toRemove currentCount =>
      { s with ctx := (fastrgPdumpDisableCcb toRemove currentCount s.ctx).2 }
  | .setUserCount newCount =>
      if newCount = 0 ∨ s.ctx.slots < newCount then s else { s with userCount := newCount }
  | .sizeLimitReached =>
      if s.ctx.writerRunning then { s with ctx := { s.ctx with paused := true } } else s

end FastRG
