/-
The mailbox of the control thread: the mail slots and their two rings, `fastrg_loop` over the mail
it takes out, and the requests of `cli_request.c` with `cli_request_run` waiting for their verdicts.

A poster takes a slot out of `free_mail_ring` and puts it on `cp_q`, with other threads in between;
the loop takes a burst off `cp_q` and works through it, and the caller of a request polls the one
result slot meanwhile.  The contents of a mail travel with its slot: a branch of the loop reads only
the fields that the poster of its type has written.  What the commands do to the subscribers is in
`Northbound` and `EtcdIntegration`; here a command has a status, and leaves a receipt.
-/
import FastRG.Common

namespace FastRG

/-- A heap block, a packet buffer, or a result buffer of a caller. -/
abbrev Ref := Nat

/-! ### Events -/

/-- The four `EV_NORTHBOUND_*` types. -/
inductive NorthboundType
  | pppoe
  | dhcp
  | dns
  | node
  deriving DecidableEq

/-- The five `EV_DP_*` types. -/
inductive DpType
  | pppoe
  | dns
  | dhcp
  | icmp6
  | nd6Miss
  deriving DecidableEq

/-- `fastrg_event_northbound_msg_t`; `call` numbers the posts, and no code reads it. -/
structure NorthboundMsg where
  cmd : Nat
  ccbId : Nat
  seq : Nat
  payload : Option Ref
  call : Nat
  deriving DecidableEq

/-- What a poster puts into a slot. -/
inductive Posting
  | northbound (type : NorthboundType) (msg : NorthboundMsg)
  | etcd (ev : Ref)
  | dp (type : DpType) (mbuf : Ref)
  deriving DecidableEq

/-- An entry of `cp_q`: a mail slot, or the mail that `lsi_event_callback` allocates. -/
inductive CpMail
  | mail (slot : Nat) (posting : Posting)
  | link (ref : Ref)
  deriving DecidableEq

/-! ### Commands -/

def pppoeCmdDisable : Nat := 0
def pppoeCmdForceDisable : Nat := 1
def pppoeCmdEnable : Nat := 2
def pppoeCmdIpv6Changed : Nat := 3
def pppoeCmdApplyConfig : Nat := 4
def pppoeCmdRemoveConfig : Nat := 5
def pppoeCmdSnatSet : Nat := 6
def pppoeCmdTcpConntrackEnable : Nat := 7
def pppoeCmdTcpConntrackDisable : Nat := 8
def pppoeCmdSnatRemove : Nat := 9
def pppoeCmdIpv6Enable : Nat := 10
def pppoeCmdIpv6Disable : Nat := 11

def dhcpCmdDisable : Nat := 0
def dhcpCmdEnable : Nat := 1

def dnsCmdProxyEnable : Nat := 0
def dnsCmdProxyDisable : Nat := 1
def dnsCmdRecordAdd : Nat := 2
def dnsCmdRecordRemove : Nat := 3
def dnsCmdCacheFlush : Nat := 4
def dnsCmdCacheDump : Nat := 5
def dnsCmdStaticDump : Nat := 6

def nodeCmdSetUserCount : Nat := 0

/-- What the loop sees of the subscriber arrays while it looks at a mail. -/
structure CcbView where
  userCount : Nat
  pppCcb : Nat → Bool
  dhcpCcb : Nat → Bool

/-- `is_valid_ccb_id`. -/
def CcbView.isValidCcbId (v : CcbView) (ccbId : Nat) : Bool :=
  decide (ccbId < v.userCount) && v.dhcpCcb ccbId && v.pppCcb ccbId

/-- What a request comes to, once it is not dropped. -/
inductive Work
  /-- No payload, or no such subscriber: `ERROR`. -/
  | nothing
  /-- The function of the command is called, and its status is the verdict. -/
  | call
  /-- The table is dumped into the caller's buffer, if `malloc` gives the array. -/
  | dump (buffer : Ref)
  /-- The cache is flushed, and the count written to the caller's buffer. -/
  | flush (buffer : Ref)
  deriving DecidableEq

/-- The exit of the loop's branch that a message takes. -/
inductive Task
  /-- `cli_request_dropped` is asked first, with the payload it frees. -/
  | request (heap : Option Ref) (work : Work)
  /-- The subscriber is out of range or has no ccb: `ERROR` is published. -/
  | refuse
  /-- A command without a verdict. -/
  | fire
  /-- No branch for the command. -/
  | ignore
  deriving DecidableEq

/-- The `EV_NORTHBOUND_PPPoE` branch. -/
def pppoeTask (v : CcbView) (m : NorthboundMsg) : Task :=
  if m.cmd = pppoeCmdApplyConfig then .request m.payload .call
  else if m.cmd = pppoeCmdSnatSet ∨ m.cmd = pppoeCmdSnatRemove then
    .request m.payload (if m.payload.isSome then .call else .nothing)
  else if m.cmd = pppoeCmdRemoveConfig then .request none .call
  else if v.userCount ≤ m.ccbId then .refuse
  else if v.pppCcb m.ccbId = false then .refuse
  else if m.cmd = pppoeCmdDisable ∨ m.cmd = pppoeCmdEnable ∨ m.cmd = pppoeCmdForceDisable ∨
      m.cmd = pppoeCmdIpv6Changed then .fire
  else if m.cmd = pppoeCmdTcpConntrackEnable ∨ m.cmd = pppoeCmdTcpConntrackDisable then
    .request none .call
  else if m.cmd = pppoeCmdIpv6Enable ∨ m.cmd = pppoeCmdIpv6Disable then .request none .call
  else .ignore

/-- The `EV_NORTHBOUND_DHCP` branch. -/
def dhcpTask (v : CcbView) (m : NorthboundMsg) : Task :=
  if v.userCount ≤ m.ccbId then .refuse
  else if v.dhcpCcb m.ccbId = false then .refuse
  else if m.cmd = dhcpCmdDisable ∨ m.cmd = dhcpCmdEnable then .fire
  else .ignore

/-- The `EV_NORTHBOUND_DNS` branch. -/
def dnsTask (v : CcbView) (m : NorthboundMsg) : Task :=
  if m.cmd = dnsCmdRecordAdd ∨ m.cmd = dnsCmdRecordRemove then
    .request m.payload (if m.payload.isSome ∧ v.isValidCcbId m.ccbId then .call else .nothing)
  else if v.userCount ≤ m.ccbId then .refuse
  else if v.dhcpCcb m.ccbId = false then .refuse
  else if m.cmd = dnsCmdProxyEnable ∨ m.cmd = dnsCmdProxyDisable then .request none .call
  else if m.cmd = dnsCmdCacheFlush then .request none (m.payload.elim .nothing .flush)
  else if m.cmd = dnsCmdCacheDump ∨ m.cmd = dnsCmdStaticDump then
    .request none (m.payload.elim .nothing .dump)
  else .ignore

/-- The `EV_NORTHBOUND_NODE` branch. -/
def nodeTask (m : NorthboundMsg) : Task :=
  if m.cmd = nodeCmdSetUserCount then
    .request m.payload (if m.payload.isSome then .call else .nothing)
  else .ignore

/-- The branch of a northbound type. -/
def northboundTask (v : CcbView) (type : NorthboundType) (m : NorthboundMsg) : Task :=
  match type with
  | .pppoe => pppoeTask v m
  | .dhcp => dhcpTask v m
  | .dns => dnsTask v m
  | .node => nodeTask m

/-! ### What a mail leaves behind -/

/-- How the loop has dealt with a northbound message. -/
structure Receipt where
  type : NorthboundType
  msg : NorthboundMsg
  /-- `cli_request_dropped` has found it abandoned. -/
  dropped : Bool
  /-- The command has been carried out. -/
  ran : Bool
  /-- The caller's buffer that has been written. -/
  wrote : Option Ref
  freed : List Ref
  /-- What `cli_request_publish` has been called with for it, `seq` 0 apart. -/
  verdicts : List Status
  deriving DecidableEq

/-- Whether the command of a request is carried out. -/
def Work.ran : Work → Bool
  | .nothing => false
  | _ => true

/-- The buffer that it writes. -/
def Work.wrote : Work → Option Ref
  | .dump buffer => some buffer
  | .flush buffer => some buffer
  | _ => none

/-- The status it is answered with, where the command's own function returns `ret`. -/
def Work.answer (ret : Status) : Work → Status
  | .nothing => .error
  | .flush _ => .success
  | _ => ret

/-- The calls of `cli_request_publish` that do something. -/
def publishes (seq : Nat) (ret : Status) : List Status := if seq = 0 then [] else [ret]

/-- A northbound mail dealt with. -/
def northboundReceipt (type : NorthboundType) (m : NorthboundMsg) (task : Task) (dropped : Bool)
    (ret : Status) : Receipt :=
  match task with
  | .request heap work =>
      if dropped then ⟨type, m, true, false, none, heap.toList, []⟩
      else ⟨type, m, false, work.ran, work.wrote, heap.toList, publishes m.seq (work.answer ret)⟩
  | .refuse => ⟨type, m, false, false, none, [], publishes m.seq .error⟩
  | .fire => ⟨type, m, false, true, none, [], []⟩
  | .ignore => ⟨type, m, false, false, none, [], []⟩

/-- The commands whose payload goes over to the control thread. -/
def ownsPayload (type : NorthboundType) (cmd : Nat) : Bool :=
  match type with
  | .pppoe => decide (cmd = pppoeCmdApplyConfig ∨ cmd = pppoeCmdSnatSet ∨ cmd = pppoeCmdSnatRemove)
  | .dhcp => false
  | .dns => decide (cmd = dnsCmdRecordAdd ∨ cmd = dnsCmdRecordRemove)
  | .node => decide (cmd = nodeCmdSetUserCount)

/-- What goes over to the control thread with a mail. -/
def Posting.owned : Posting → List Ref
  | .northbound type m => if ownsPayload type m.cmd then m.payload.toList else []
  | .etcd ev => [ev]
  | .dp _ mbuf => [mbuf]

def CpMail.owned : CpMail → List Ref
  | .mail _ posting => posting.owned
  | .link ref => [ref]

/-- The mail slot of an entry. -/
def CpMail.slot : CpMail → Option Nat
  | .mail slot _ => some slot
  | .link _ => none

/-! ### Requests of the CLI -/

/-- The commands `cli_request_run` is called with. -/
inductive CliCommand
  | applyConfig
  | removeConfig
  | setUserCount
  | snatSet
  | snatRemove
  | recordAdd
  | recordRemove
  | cacheDump
  | staticDump
  | cacheFlush
  | proxyEnable
  | proxyDisable
  | tcpConntrackEnable
  | tcpConntrackDisable
  | ipv6Enable
  | ipv6Disable
  deriving DecidableEq

def CliCommand.type : CliCommand → NorthboundType
  | .applyConfig | .removeConfig | .snatSet | .snatRemove | .tcpConntrackEnable
  | .tcpConntrackDisable | .ipv6Enable | .ipv6Disable => .pppoe
  | .setUserCount => .node
  | .recordAdd | .recordRemove | .cacheDump | .staticDump | .cacheFlush | .proxyEnable
  | .proxyDisable => .dns

def CliCommand.cmd : CliCommand → Nat
  | .applyConfig => pppoeCmdApplyConfig
  | .removeConfig => pppoeCmdRemoveConfig
  | .setUserCount => nodeCmdSetUserCount
  | .snatSet => pppoeCmdSnatSet
  | .snatRemove => pppoeCmdSnatRemove
  | .recordAdd => dnsCmdRecordAdd
  | .recordRemove => dnsCmdRecordRemove
  | .cacheDump => dnsCmdCacheDump
  | .staticDump => dnsCmdStaticDump
  | .cacheFlush => dnsCmdCacheFlush
  | .proxyEnable => dnsCmdProxyEnable
  | .proxyDisable => dnsCmdProxyDisable
  | .tcpConntrackEnable => pppoeCmdTcpConntrackEnable
  | .tcpConntrackDisable => pppoeCmdTcpConntrackDisable
  | .ipv6Enable => pppoeCmdIpv6Enable
  | .ipv6Disable => pppoeCmdIpv6Disable

def cliRequestNone : Nat := 0
def cliRequestOk : Nat := 1
def cliRequestFailed : Nat := 2

/-- `CLI_REQUEST_SEQ_MAX`. -/
def cliRequestSeqMax : Nat := 0xffffffff / 4

/-- `cli_request_result_pack`. -/
def cliRequestResultPack (seq verdict : Nat) : Nat := (seq * 4) % 0x100000000 + verdict % 4

/-- The verdict of a status. -/
def cliVerdict : Status → Nat
  | .success => cliRequestOk
  | .error => cliRequestFailed

/-- Where the holder of `cli_request_mutex` is. -/
inductive CliCaller
  | idle
  | posting (slot : Nat) (type : NorthboundType) (msg : NorthboundMsg)
  | waiting (msg : NorthboundMsg)
  | leaving
  deriving DecidableEq

/-- A mail the loop has begun with, past the look at the abandoned mark. -/
structure Job where
  mail : CpMail
  task : Task
  dropped : Bool
  deriving DecidableEq

/-! ### The mailbox -/

/-- `RING_SIZE` and `MAIL_SLOT_RING_SIZE`; a ring holds one entry less. -/
def ringSize : Nat := 16384
def mailSlotRingSize : Nat := 8192

/-- `RING_BURST_SIZE`. -/
def ringBurstSize : Nat := 64

/-- The rings, the loop, the posters and the caller of a request, and what has happened so far. -/
structure Mailbox where
  freeMailRing : List Nat
  cpQ : List CpMail
  /-- The rest of the burst. -/
  batch : List CpMail
  current : Option Job
  /-- The posters between their two rings. -/
  hands : List (Nat × Posting)
  caller : CliCaller
  cliRequestSeq : Nat
  cliRequestResult : Nat
  cliRequestAbandoned : Nat
  /-- The northbound messages made so far. -/
  calls : Nat
  log : List Receipt
  /-- The calls given up while their mail was still on `cp_q`. -/
  late : List Nat
  /-- The verdicts that callers have got. -/
  received : List (Nat × Nat)
  /-- What has gone over to the control thread or the posting function, and what has been freed. -/
  given : List Ref
  released : List Ref

namespace Mailbox

/-- `init_ring`: the pool fills the free ring. -/
def boot : Mailbox where
  freeMailRing := List.range' 0 (mailSlotRingSize - 1)
  cpQ := []
  batch := []
  current := none
  hands := []
  caller := .idle
  cliRequestSeq := 0
  cliRequestResult := 0
  cliRequestAbandoned := 0
  calls := 0
  log := []
  late := []
  received := []
  given := []
  released := []

/-- `rte_ring_enqueue` onto `free_mail_ring`; its result is not looked at. -/
def giveBack (s : Mailbox) (slot : Nat) : Mailbox :=
  if s.freeMailRing.length < mailSlotRingSize - 1 then
    { s with freeMailRing := s.freeMailRing ++ [slot] }
  else s

/-- A posting numbered, where it is a northbound one. -/
def number (s : Mailbox) : Posting → Mailbox × Posting
  | .northbound type m =>
      ({ s with calls := s.calls + 1 }, .northbound type { m with call := s.calls })
  | p => (s, p)

/-- A post that fails: `send2cp` drops the packet, the others leave what they have to the caller. -/
def refusePost (s : Mailbox) : Posting → Mailbox
  | .dp _ mbuf => { s with given := s.given ++ [mbuf], released := s.released ++ [mbuf] }
  | _ => s

/-- `northbound_event_post`, `fastrg_gen_etcd_event` and `send2cp`, up to the slot. -/
def take (s : Mailbox) (p : Posting) : Mailbox :=
  match s.freeMailRing with
  | [] => s.refusePost p
  | slot :: rest =>
      let (s, p) := s.number p
      { s with freeMailRing := rest, hands := s.hands ++ [(slot, p)] }

/-- A filled slot put on `cp_q`. -/
def enqueue (s : Mailbox) (slot : Nat) (p : Posting) : Mailbox :=
  { s with cpQ := s.cpQ ++ [.mail slot p], given := s.given ++ p.owned }

/-- The rest of a post, by the poster at `i`. -/
def push (s : Mailbox) (i : Nat) : Mailbox :=
  match s.hands[i]? with
  | none => s
  | some (slot, p) =>
      let s := { s with hands := s.hands.eraseIdx i }
      if s.cpQ.length < ringSize - 1 then s.enqueue slot p
      else (s.giveBack slot).refusePost p

/-- `lsi_event_callback`, with the mail it has allocated. -/
def linkEvent (s : Mailbox) (mail : Ref) : Mailbox :=
  if s.cpQ.length < ringSize - 1 then
    { s with cpQ := s.cpQ ++ [.link mail], given := s.given ++ [mail] }
  else { s with given := s.given ++ [mail], released := s.released ++ [mail] }

/-- `rte_ring_dequeue_burst`, once the last burst is done with. -/
def burst (s : Mailbox) : Mailbox :=
  if s.batch = [] ∧ s.current = none then
    { s with batch := s.cpQ.take ringBurstSize, cpQ := s.cpQ.drop ringBurstSize }
  else s

/-- `cli_request_is_abandoned`. -/
def isAbandoned (s : Mailbox) (seq : Nat) : Bool := seq ≠ 0 && s.cliRequestAbandoned == seq

/-- The loop goes to the next mail of the burst, as far as the mark. -/
def check (s : Mailbox) (v : CcbView) : Mailbox :=
  match s.current, s.batch with
  | none, .mail slot (.northbound type m) :: rest =>
      let mail := CpMail.mail slot (.northbound type m)
      match northboundTask v type m with
      | .request heap work =>
          if s.isAbandoned m.seq then
            { s with batch := rest, cliRequestAbandoned := 0,
                     current := some ⟨mail, .request heap work, true⟩ }
          else { s with batch := rest, current := some ⟨mail, .request heap work, false⟩ }
      | task => { s with batch := rest, current := some ⟨mail, task, false⟩ }
  | none, mail :: rest => { s with batch := rest, current := some ⟨mail, .ignore, false⟩ }
  | _, _ => s

/-- `cli_request_publish`, as far as the result slot goes. -/
def publish (s : Mailbox) (seq : Nat) : List Status → Mailbox
  | [] => s
  | ret :: rest =>
      { s with cliRequestResult := cliRequestResultPack seq (cliVerdict ret) }.publish seq rest

/-- The loop is done with the mail: its payload is freed, its waiter answered, its slot returned. -/
def finish (s : Mailbox) (ret : Status) : Mailbox :=
  match s.current with
  | none => s
  | some ⟨.link mail, _, _⟩ => { s with current := none, released := s.released ++ [mail] }
  | some ⟨.mail slot (.northbound type m), task, dropped⟩ =>
      let receipt := northboundReceipt type m task dropped ret
      let s := { s with current := none, log := s.log ++ [receipt],
                        released := s.released ++ receipt.freed }
      (s.publish m.seq receipt.verdicts).giveBack slot
  | some ⟨.mail slot p, _, _⟩ =>
      { s with current := none, released := s.released ++ p.owned }.giveBack slot

/-! ### `cli_request_run` -/

/-- The next sequence: 0 is never handed out. -/
def nextSeq (s : Mailbox) : Nat :=
  (if cliRequestSeqMax ≤ s.cliRequestSeq then 0 else s.cliRequestSeq) + 1

/-- The message of a request. -/
def cliMsg (s : Mailbox) (c : CliCommand) (ccbId : Nat) (payload : Option Ref) : NorthboundMsg :=
  ⟨c.cmd, ccbId, s.nextSeq, payload, s.calls⟩

/-- The mutex is taken, the result slot cleared and a mail slot taken. -/
def cliStart (s : Mailbox) (c : CliCommand) (ccbId : Nat) (payload : Option Ref) : Mailbox :=
  match s.caller with
  | .idle =>
      let s' := { s with cliRequestSeq := s.nextSeq, calls := s.calls + 1,
                         cliRequestResult := cliRequestResultPack 0 cliRequestNone }
      match s.freeMailRing with
      | [] => s'
      | slot :: rest =>
          { s' with freeMailRing := rest, caller := .posting slot c.type (s.cliMsg c ccbId payload) }
  | _ => s

/-- The slot is put on `cp_q`, or the call fails. -/
def cliPush (s : Mailbox) : Mailbox :=
  match s.caller with
  | .posting slot type m =>
      if s.cpQ.length < ringSize - 1 then
        { s with caller := .waiting m }.enqueue slot (.northbound type m)
      else { s with caller := .idle }.giveBack slot
  | _ => s

/-- One look at the result slot. -/
def cliPoll (s : Mailbox) : Mailbox :=
  match s.caller with
  | .waiting m =>
      if s.cliRequestResult / 4 = m.seq ∧ s.cliRequestResult % 4 ≠ cliRequestNone then
        { s with caller := .leaving, received := s.received ++ [(m.call, s.cliRequestResult % 4)] }
      else s
  | _ => s

/-- The messages of some mails. -/
def northboundMsgs (mails : List CpMail) : List NorthboundMsg :=
  mails.filterMap fun
    | .mail _ (.northbound _ m) => some m
    | _ => none

/-- The polls are used up: `cli_request_abandon`. -/
def cliGiveUp (s : Mailbox) : Mailbox :=
  match s.caller with
  | .waiting m =>
      { s with caller := .leaving, cliRequestAbandoned := m.seq,
               late := if m ∈ northboundMsgs s.cpQ then s.late ++ [m.call] else s.late }
  | _ => s

/-- The result slot is cleared and the mutex released. -/
def cliLeave (s : Mailbox) : Mailbox :=
  match s.caller with
  | .leaving =>
      { s with caller := .idle, cliRequestResult := cliRequestResultPack 0 cliRequestNone }
  | _ => s

end Mailbox

/-- What may happen next. -/
inductive MailLabel
  | take (p : Posting)
  | push (i : Nat)
  | linkEvent (mail : Ref)
  | burst
  | check (v : CcbView)
  | finish (ret : Status)
  | cliStart (c : CliCommand) (ccbId : Nat) (payload : Option Ref)
  | cliPush
  | cliPoll
  | cliGiveUp
  | cliLeave

/-- One step of the posters, the loop or the caller. -/
def mailStep (s : Mailbox) : MailLabel → Mailbox
  | .take p => s.take p
  | .push i => s.push i
  | .linkEvent mail => s.linkEvent mail
  | .burst => s.burst
  | .check v => s.check v
  | .finish ret => s.finish ret
  | .cliStart c ccbId payload => s.cliStart c ccbId payload
  | .cliPush => s.cliPush
  | .cliPoll => s.cliPoll
  | .cliGiveUp => s.cliGiveUp
  | .cliLeave => s.cliLeave

end FastRG
