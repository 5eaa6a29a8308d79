/-
The PPP automaton: the two tables of RFC 1661, the actions their rows name, and
`PPP_FSM`, which runs them.

An action may deliver an event of its own, so `PPP_FSM` is entered again from inside
itself, and the row it was running is then looked up again under whatever protocol is
current by then.  The model keeps both: every action is handed the automaton it may
re-enter, and the loop over a row reads the table of the current `cp_id` at each turn.
The recursion is at most five calls deep, so `pppFsm` unrolls it five times; that no
deeper call is ever made is `pppFsm_eq`.

Frames the actions send are not kept here, only what sending one writes to the control
block.
-/
import FastRG.PppCcb
import Mathlib.Logic.Function.Iterate

namespace FastRG

/-- The `A_*` functions. -/
inductive PppAction
  | thisLayerStart
  | thisLayerFinish
  | thisLayerUp
  | thisLayerDown
  | initRestartCount
  | initRestartConfig
  | initRestartTermin
  | sendConfigRequest
  | sendConfigNakRej
  | sendConfigAck
  | sendTerminateRequest
  | sendTerminateAck
  | sendCodeReject
  | sendEchoReply
  | createUpEvent
  | createDownEvent
  | zeroRestartCount
  | sendPadt
  | createCloseToLowerLayer
  deriving DecidableEq

/-- `tPPP_STATE_TBL`. -/
structure PppRow where
  state : PppState
  event : PppEvent
  nextState : PppState
  hdl : List PppAction
  deriving DecidableEq

/-- The LCP table. -/
def pppFsmTblLcp : List PppRow :=
    -- S_INIT
  [ ⟨.sInit, .eUp, .sClosed, []⟩
  , ⟨.sInit, .eOpen, .sStarting, [.thisLayerStart]⟩
  , ⟨.sInit, .eClose, .sInit, []⟩
  -- S_STARTING
  , ⟨.sStarting, .eUp, .sRequestSent, [.sendConfigRequest, .initRestartConfig]⟩
  , ⟨.sStarting, .eOpen, .sStarting, []⟩
  , ⟨.sStarting, .eClose, .sInit, [.thisLayerFinish, .sendPadt]⟩
  -- S_CLOSED
  , ⟨.sClosed, .eUp, .sClosed, []⟩
  , ⟨.sClosed, .eDown, .sInit, [.sendPadt]⟩
  , ⟨.sClosed, .eOpen, .sRequestSent, [.sendConfigRequest, .initRestartConfig]⟩
  , ⟨.sClosed, .eClose, .sClosed, []⟩
  , ⟨.sClosed, .eRecvGoodConfigRequest, .sClosed, [.sendTerminateAck]⟩
  , ⟨.sClosed, .eRecvBadConfigRequest, .sClosed, [.sendTerminateAck]⟩
  , ⟨.sClosed, .eRecvConfigAck, .sClosed, [.sendTerminateAck]⟩
  , ⟨.sClosed, .eRecvConfigNakRej, .sClosed, [.sendTerminateAck]⟩
  , ⟨.sClosed, .eRecvTerminateRequest, .sClosed, [.sendTerminateAck]⟩
  , ⟨.sClosed, .eRecvTerminateAck, .sClosed, []⟩
  , ⟨.sClosed, .eRecvUnknownCode, .sClosed, [.sendCodeReject]⟩
  , ⟨.sClosed, .eRecvGoodCodeProtocolReject, .sClosed, []⟩
  , ⟨.sClosed, .eRecvBadCodeProtocolReject, .sClosed, [.thisLayerFinish]⟩
  , ⟨.sClosed, .eRecvEchoRequest, .sClosed, []⟩
  , ⟨.sClosed, .eRecvEchoReply, .sClosed, []⟩
  -- S_STOPPED
  , ⟨.sStopped, .eDown, .sStarting, [.thisLayerStart]⟩
  , ⟨.sStopped, .eOpen, .sStopped, [.createDownEvent, .createUpEvent]⟩
  , ⟨.sStopped, .eClose, .sClosed, [.sendPadt]⟩
  , ⟨.sStopped, .eRecvGoodConfigRequest, .sAckSent,
      [.initRestartConfig, .sendConfigRequest, .sendConfigAck]⟩
  , ⟨.sStopped, .eRecvBadConfigRequest, .sRequestSent,
      [.initRestartConfig, .sendConfigRequest, .sendConfigNakRej]⟩
  , ⟨.sStopped, .eRecvConfigAck, .sStopped, [.sendTerminateAck]⟩
  , ⟨.sStopped, .eRecvConfigNakRej, .sStopped, [.sendTerminateAck]⟩
  , ⟨.sStopped, .eRecvTerminateRequest, .sStopped, [.sendTerminateAck]⟩
  , ⟨.sStopped, .eRecvTerminateAck, .sStopped, []⟩
  , ⟨.sStopped, .eRecvUnknownCode, .sStopped, [.sendCodeReject]⟩
  , ⟨.sStopped, .eRecvGoodCodeProtocolReject, .sStopped, []⟩
  , ⟨.sStopped, .eRecvBadCodeProtocolReject, .sStopped, [.thisLayerFinish]⟩
  , ⟨.sStopped, .eRecvEchoRequest, .sStopped, []⟩
  , ⟨.sStopped, .eRecvEchoReply, .sStopped, []⟩
  -- S_CLOSING
  , ⟨.sClosing, .eDown, .sInit, []⟩
  , ⟨.sClosing, .eOpen, .sStopping, [.createDownEvent, .createUpEvent]⟩
  , ⟨.sClosing, .eClose, .sClosing, []⟩
  , ⟨.sClosing, .eTimeoutCounterPositive, .sClosing, [.sendTerminateRequest]⟩
  , ⟨.sClosing, .eTimeoutCounterExpired, .sClosed, [.thisLayerFinish]⟩
  , ⟨.sClosing, .eRecvGoodConfigRequest, .sClosing, []⟩
  , ⟨.sClosing, .eRecvBadConfigRequest, .sClosing, []⟩
  , ⟨.sClosing, .eRecvConfigAck, .sClosing, []⟩
  , ⟨.sClosing, .eRecvConfigNakRej, .sClosing, []⟩
  , ⟨.sClosing, .eRecvTerminateRequest, .sClosing, [.sendTerminateAck]⟩
  , ⟨.sClosing, .eRecvTerminateAck, .sClosed, [.createDownEvent, .createUpEvent]⟩
  , ⟨.sClosing, .eRecvUnknownCode, .sClosing, [.sendCodeReject]⟩
  , ⟨.sClosing, .eRecvGoodCodeProtocolReject, .sClosing, []⟩
  , ⟨.sClosing, .eRecvBadCodeProtocolReject, .sClosed, [.thisLayerFinish]⟩
  , ⟨.sClosing, .eRecvEchoRequest, .sClosing, []⟩
  , ⟨.sClosing, .eRecvEchoReply, .sClosing, []⟩
  -- S_STOPPING
  , ⟨.sStopping, .eDown, .sStarting, []⟩
  , ⟨.sStopping, .eOpen, .sStopping, [.createDownEvent, .createUpEvent]⟩
  , ⟨.sStopping, .eClose, .sClosing, []⟩
  , ⟨.sStopping, .eTimeoutCounterPositive, .sStopping, [.sendTerminateRequest]⟩
  , ⟨.sStopping, .eTimeoutCounterExpired, .sStopped, [.thisLayerFinish]⟩
  , ⟨.sStopping, .eRecvGoodConfigRequest, .sStopping, []⟩
  , ⟨.sStopping, .eRecvBadConfigRequest, .sStopping, []⟩
  , ⟨.sStopping, .eRecvConfigAck, .sStopping, []⟩
  , ⟨.sStopping, .eRecvConfigNakRej, .sStopping, []⟩
  , ⟨.sStopping, .eRecvTerminateRequest, .sStopping, [.sendTerminateAck]⟩
  , ⟨.sStopping, .eRecvTerminateAck, .sStopped, [.createDownEvent, .createUpEvent]⟩
  , ⟨.sStopping, .eRecvUnknownCode, .sStopping, [.sendCodeReject]⟩
  , ⟨.sStopping, .eRecvGoodCodeProtocolReject, .sStopping, []⟩
  , ⟨.sStopping, .eRecvBadCodeProtocolReject, .sStopped, [.thisLayerFinish]⟩
  , ⟨.sStopping, .eRecvEchoRequest, .sStopping, []⟩
  , ⟨.sStopping, .eRecvEchoReply, .sStopping, []⟩
  -- S_REQUEST_SENT
  , ⟨.sRequestSent, .eDown, .sStarting, []⟩
  , ⟨.sRequestSent, .eOpen, .sRequestSent, []⟩
  , ⟨.sRequestSent, .eClose, .sClosing, [.initRestartTermin, .sendTerminateRequest]⟩
  , ⟨.sRequestSent, .eTimeoutCounterPositive, .sRequestSent, [.sendConfigRequest]⟩
  , ⟨.sRequestSent, .eTimeoutCounterExpired, .sStopped, [.thisLayerFinish]⟩
  , ⟨.sRequestSent, .eRecvGoodConfigRequest, .sAckSent, [.sendConfigAck]⟩
  , ⟨.sRequestSent, .eRecvBadConfigRequest, .sRequestSent, [.sendConfigNakRej]⟩
  , ⟨.sRequestSent, .eRecvConfigAck, .sAckReceived, [.initRestartCount]⟩
  , ⟨.sRequestSent, .eRecvConfigNakRej, .sRequestSent, [.initRestartConfig, .sendConfigRequest]⟩
  , ⟨.sRequestSent, .eRecvTerminateRequest, .sRequestSent, [.sendTerminateAck]⟩
  , ⟨.sRequestSent, .eRecvTerminateAck, .sRequestSent, []⟩
  , ⟨.sRequestSent, .eRecvUnknownCode, .sRequestSent, [.sendCodeReject]⟩
  , ⟨.sRequestSent, .eRecvGoodCodeProtocolReject, .sRequestSent, []⟩
  , ⟨.sRequestSent, .eRecvBadCodeProtocolReject, .sStopped, [.thisLayerFinish]⟩
  , ⟨.sRequestSent, .eRecvEchoRequest, .sRequestSent, []⟩
  , ⟨.sRequestSent, .eRecvEchoReply, .sRequestSent, []⟩
  -- S_ACK_RECEIVED
  , ⟨.sAckReceived, .eDown, .sStarting, []⟩
  , ⟨.sAckReceived, .eOpen, .sAckReceived, []⟩
  , ⟨.sAckReceived, .eClose, .sClosing, [.initRestartTermin, .sendTerminateRequest]⟩
  , ⟨.sAckReceived, .eTimeoutCounterPositive, .sRequestSent, [.sendConfigRequest]⟩
  , ⟨.sAckReceived, .eTimeoutCounterExpired, .sStopped, [.thisLayerFinish]⟩
  , ⟨.sAckReceived, .eRecvGoodConfigRequest, .sOpened, [.sendConfigAck, .thisLayerUp]⟩
  , ⟨.sAckReceived, .eRecvBadConfigRequest, .sAckReceived, [.sendConfigNakRej]⟩
  , ⟨.sAckReceived, .eRecvConfigAck, .sRequestSent, [.sendConfigRequest]⟩
  , ⟨.sAckReceived, .eRecvConfigNakRej, .sRequestSent, [.sendConfigRequest]⟩
  , ⟨.sAckReceived, .eRecvTerminateRequest, .sRequestSent, [.sendTerminateAck]⟩
  , ⟨.sAckReceived, .eRecvTerminateAck, .sRequestSent, []⟩
  , ⟨.sAckReceived, .eRecvUnknownCode, .sAckReceived, [.sendCodeReject]⟩
  , ⟨.sAckReceived, .eRecvGoodCodeProtocolReject, .sRequestSent, []⟩
  , ⟨.sAckReceived, .eRecvBadCodeProtocolReject, .sStopped, [.thisLayerFinish]⟩
  , ⟨.sAckReceived, .eRecvEchoRequest, .sAckReceived, []⟩
  , ⟨.sAckReceived, .eRecvEchoReply, .sAckReceived, []⟩
  -- S_ACK_SENT
  , ⟨.sAckSent, .eDown, .sStarting, []⟩
  , ⟨.sAckSent, .eOpen, .sAckSent, []⟩
  , ⟨.sAckSent, .eClose, .sClosing, [.initRestartTermin, .sendTerminateRequest]⟩
  , ⟨.sAckSent, .eTimeoutCounterPositive, .sAckSent, [.sendConfigRequest]⟩
  , ⟨.sAckSent, .eTimeoutCounterExpired, .sStopped, [.thisLayerFinish]⟩
  , ⟨.sAckSent, .eRecvGoodConfigRequest, .sAckSent, [.sendConfigAck]⟩
  , ⟨.sAckSent, .eRecvBadConfigRequest, .sRequestSent, [.sendConfigNakRej]⟩
  , ⟨.sAckSent, .eRecvConfigAck, .sOpened, [.initRestartCount, .thisLayerUp]⟩
  , ⟨.sAckSent, .eRecvConfigNakRej, .sAckSent, [.initRestartConfig, .sendConfigRequest]⟩
  , ⟨.sAckSent, .eRecvTerminateRequest, .sRequestSent, [.sendTerminateAck]⟩
  , ⟨.sAckSent, .eRecvTerminateAck, .sAckSent, []⟩
  , ⟨.sAckSent, .eRecvUnknownCode, .sAckSent, [.sendCodeReject]⟩
  , ⟨.sAckSent, .eRecvGoodCodeProtocolReject, .sAckSent, []⟩
  , ⟨.sAckSent, .eRecvBadCodeProtocolReject, .sStopped, [.thisLayerFinish]⟩
  , ⟨.sAckSent, .eRecvEchoRequest, .sAckSent, []⟩
  , ⟨.sAckSent, .eRecvEchoReply, .sAckSent, []⟩
  -- S_OPENED
  , ⟨.sOpened, .eDown, .sStarting, [.thisLayerDown]⟩
  , ⟨.sOpened, .eOpen, .sOpened, [.createDownEvent, .createUpEvent]⟩
  , ⟨.sOpened, .eClose, .sClosing, [.thisLayerDown, .initRestartTermin, .sendTerminateRequest]⟩
  , ⟨.sOpened, .eRecvGoodConfigRequest, .sAckSent,
      [.thisLayerDown, .sendConfigRequest, .sendConfigAck]⟩
  , ⟨.sOpened, .eRecvBadConfigRequest, .sRequestSent,
      [.thisLayerDown, .sendConfigRequest, .sendConfigNakRej]⟩
  , ⟨.sOpened, .eRecvConfigAck, .sRequestSent, [.thisLayerDown, .sendConfigRequest]⟩
  , ⟨.sOpened, .eRecvConfigNakRej, .sRequestSent, [.thisLayerDown, .sendConfigRequest]⟩
  , ⟨.sOpened, .eRecvTerminateRequest, .sStopping,
      [.thisLayerDown, .initRestartTermin, .sendTerminateRequest, .sendTerminateAck]⟩
  , ⟨.sOpened, .eRecvTerminateAck, .sRequestSent, [.thisLayerDown, .sendConfigRequest]⟩
  , ⟨.sOpened, .eRecvUnknownCode, .sOpened, [.sendCodeReject]⟩
  , ⟨.sOpened, .eRecvGoodCodeProtocolReject, .sOpened, []⟩
  , ⟨.sOpened, .eRecvBadCodeProtocolReject, .sStopping,
      [.thisLayerDown, .initRestartTermin, .sendTerminateRequest]⟩
  , ⟨.sOpened, .eRecvEchoRequest, .sOpened, [.sendEchoReply]⟩
  , ⟨.sOpened, .eRecvEchoReply, .sOpened, []⟩
  ]

/-- The table of IPCP and IPV6CP. -/
def pppFsmTblNcp : List PppRow :=
    -- S_INIT
  [ ⟨.sInit, .eUp, .sClosed, []⟩
  , ⟨.sInit, .eOpen, .sStarting, [.thisLayerStart]⟩
  , ⟨.sInit, .eClose, .sInit, []⟩
  -- S_STARTING
  , ⟨.sStarting, .eUp, .sRequestSent, [.sendConfigRequest, .initRestartConfig]⟩
  , ⟨.sStarting, .eOpen, .sStarting, []⟩
  , ⟨.sStarting, .eClose, .sInit, [.thisLayerFinish]⟩
  -- S_CLOSED
  , ⟨.sClosed, .eDown, .sInit, [.createCloseToLowerLayer]⟩
  , ⟨.sClosed, .eOpen, .sRequestSent, [.sendConfigRequest, .initRestartConfig]⟩
  , ⟨.sClosed, .eClose, .sClosed, []⟩
  , ⟨.sClosed, .eRecvGoodConfigRequest, .sClosed, [.sendTerminateAck]⟩
  , ⟨.sClosed, .eRecvBadConfigRequest, .sClosed, [.sendTerminateAck]⟩
  , ⟨.sClosed, .eRecvConfigAck, .sClosed, [.sendTerminateAck]⟩
  , ⟨.sClosed, .eRecvConfigNakRej, .sClosed, [.sendTerminateAck]⟩
  , ⟨.sClosed, .eRecvTerminateRequest, .sClosed, [.sendTerminateAck]⟩
  , ⟨.sClosed, .eRecvTerminateAck, .sClosed, []⟩
  , ⟨.sClosed, .eRecvUnknownCode, .sClosed, [.sendCodeReject]⟩
  , ⟨.sClosed, .eRecvGoodCodeProtocolReject, .sClosed, []⟩
  , ⟨.sClosed, .eRecvBadCodeProtocolReject, .sClosed, [.thisLayerFinish]⟩
  , ⟨.sClosed, .eRecvEchoRequest, .sClosed, []⟩
  , ⟨.sClosed, .eRecvEchoReply, .sClosed, []⟩
  -- S_STOPPED
  , ⟨.sStopped, .eDown, .sStarting, [.thisLayerStart]⟩
  , ⟨.sStopped, .eOpen, .sStopped, [.createDownEvent, .createUpEvent]⟩
  , ⟨.sStopped, .eClose, .sClosed, []⟩
  , ⟨.sStopped, .eRecvGoodConfigRequest, .sAckSent,
      [.initRestartConfig, .sendConfigRequest, .sendConfigAck]⟩
  , ⟨.sStopped, .eRecvBadConfigRequest, .sRequestSent,
      [.initRestartConfig, .sendConfigRequest, .sendConfigNakRej]⟩
  , ⟨.sStopped, .eRecvConfigAck, .sStopped, [.sendTerminateAck]⟩
  , ⟨.sStopped, .eRecvConfigNakRej, .sStopped, [.sendTerminateAck]⟩
  , ⟨.sStopped, .eRecvTerminateRequest, .sStopped, [.sendTerminateAck]⟩
  , ⟨.sStopped, .eRecvTerminateAck, .sStopped, []⟩
  , ⟨.sStopped, .eRecvUnknownCode, .sStopped, [.sendCodeReject]⟩
  , ⟨.sStopped, .eRecvGoodCodeProtocolReject, .sStopped, []⟩
  , ⟨.sStopped, .eRecvBadCodeProtocolReject, .sStopped, [.thisLayerFinish]⟩
  , ⟨.sStopped, .eRecvEchoRequest, .sStopped, []⟩
  , ⟨.sStopped, .eRecvEchoReply, .sStopped, []⟩
  -- S_CLOSING
  , ⟨.sClosing, .eDown, .sInit, []⟩
  , ⟨.sClosing, .eOpen, .sStopping, [.createDownEvent, .createUpEvent]⟩
  , ⟨.sClosing, .eClose, .sClosing, []⟩
  , ⟨.sClosing, .eTimeoutCounterPositive, .sClosing, [.sendTerminateRequest]⟩
  , ⟨.sClosing, .eTimeoutCounterExpired, .sClosed, [.thisLayerFinish]⟩
  , ⟨.sClosing, .eRecvGoodConfigRequest, .sClosing, []⟩
  , ⟨.sClosing, .eRecvBadConfigRequest, .sClosing, []⟩
  , ⟨.sClosing, .eRecvConfigAck, .sClosing, []⟩
  , ⟨.sClosing, .eRecvConfigNakRej, .sClosing, []⟩
  , ⟨.sClosing, .eRecvTerminateRequest, .sClosing, [.sendTerminateAck]⟩
  , ⟨.sClosing, .eRecvTerminateAck, .sClosed, [.createDownEvent, .createUpEvent]⟩
  , ⟨.sClosing, .eRecvUnknownCode, .sClosing, [.sendCodeReject]⟩
  , ⟨.sClosing, .eRecvGoodCodeProtocolReject, .sClosing, []⟩
  , ⟨.sClosing, .eRecvBadCodeProtocolReject, .sClosed, [.thisLayerFinish]⟩
  , ⟨.sClosing, .eRecvEchoRequest, .sClosing, []⟩
  , ⟨.sClosing, .eRecvEchoReply, .sClosing, []⟩
  -- S_STOPPING
  , ⟨.sStopping, .eDown, .sStarting, []⟩
  , ⟨.sStopping, .eOpen, .sStopping, [.createDownEvent, .createUpEvent]⟩
  , ⟨.sStopping, .eClose, .sClosing, []⟩
  , ⟨.sStopping, .eTimeoutCounterPositive, .sStopping, [.sendTerminateRequest]⟩
  , ⟨.sStopping, .eTimeoutCounterExpired, .sStopped, [.thisLayerFinish]⟩
  , ⟨.sStopping, .eRecvGoodConfigRequest, .sStopping, []⟩
  , ⟨.sStopping, .eRecvBadConfigRequest, .sStopping, []⟩
  , ⟨.sStopping, .eRecvConfigAck, .sStopping, []⟩
  , ⟨.sStopping, .eRecvConfigNakRej, .sStopping, []⟩
  , ⟨.sStopping, .eRecvTerminateRequest, .sStopping, [.sendTerminateAck]⟩
  , ⟨.sStopping, .eRecvTerminateAck, .sStopped, [.createDownEvent, .createUpEvent]⟩
  , ⟨.sStopping, .eRecvUnknownCode, .sStopping, [.sendCodeReject]⟩
  , ⟨.sStopping, .eRecvGoodCodeProtocolReject, .sStopping, []⟩
  , ⟨.sStopping, .eRecvBadCodeProtocolReject, .sStopped, [.thisLayerFinish]⟩
  , ⟨.sStopping, .eRecvEchoRequest, .sStopping, []⟩
  , ⟨.sStopping, .eRecvEchoReply, .sStopping, []⟩
  -- S_REQUEST_SENT
  , ⟨.sRequestSent, .eDown, .sStarting, []⟩
  , ⟨.sRequestSent, .eOpen, .sRequestSent, []⟩
  , ⟨.sRequestSent, .eClose, .sClosing, [.initRestartTermin, .sendTerminateRequest]⟩
  , ⟨.sRequestSent, .eTimeoutCounterPositive, .sRequestSent, [.sendConfigRequest]⟩
  , ⟨.sRequestSent, .eTimeoutCounterExpired, .sStopped, [.thisLayerFinish]⟩
  , ⟨.sRequestSent, .eRecvGoodConfigRequest, .sAckSent, [.sendConfigAck]⟩
  , ⟨.sRequestSent, .eRecvBadConfigRequest, .sRequestSent, [.sendConfigNakRej]⟩
  , ⟨.sRequestSent, .eRecvConfigAck, .sAckReceived, [.initRestartCount]⟩
  , ⟨.sRequestSent, .eRecvConfigNakRej, .sRequestSent, [.initRestartConfig, .sendConfigRequest]⟩
  , ⟨.sRequestSent, .eRecvTerminateRequest, .sRequestSent, [.sendTerminateAck]⟩
  , ⟨.sRequestSent, .eRecvTerminateAck, .sRequestSent, []⟩
  , ⟨.sRequestSent, .eRecvUnknownCode, .sRequestSent, [.sendCodeReject]⟩
  , ⟨.sRequestSent, .eRecvGoodCodeProtocolReject, .sRequestSent, []⟩
  , ⟨.sRequestSent, .eRecvBadCodeProtocolReject, .sStopped, [.thisLayerFinish]⟩
  , ⟨.sRequestSent, .eRecvEchoRequest, .sRequestSent, []⟩
  , ⟨.sRequestSent, .eRecvEchoReply, .sRequestSent, []⟩
  -- S_ACK_RECEIVED
  , ⟨.sAckReceived, .eDown, .sStarting, []⟩
  , ⟨.sAckReceived, .eOpen, .sAckReceived, []⟩
  , ⟨.sAckReceived, .eClose, .sClosing, [.initRestartTermin, .sendTerminateRequest]⟩
  , ⟨.sAckReceived, .eTimeoutCounterPositive, .sRequestSent, [.sendConfigRequest]⟩
  , ⟨.sAckReceived, .eTimeoutCounterExpired, .sStopped, [.thisLayerFinish]⟩
  , ⟨.sAckReceived, .eRecvGoodConfigRequest, .sOpened, [.sendConfigAck, .thisLayerUp]⟩
  , ⟨.sAckReceived, .eRecvBadConfigRequest, .sAckReceived, [.sendConfigNakRej]⟩
  , ⟨.sAckReceived, .eRecvConfigAck, .sRequestSent, [.sendConfigRequest]⟩
  , ⟨.sAckReceived, .eRecvConfigNakRej, .sRequestSent, [.sendConfigRequest]⟩
  , ⟨.sAckReceived, .eRecvTerminateRequest, .sRequestSent, [.sendTerminateAck]⟩
  , ⟨.sAckReceived, .eRecvTerminateAck, .sRequestSent, []⟩
  , ⟨.sAckReceived, .eRecvUnknownCode, .sAckReceived, [.sendCodeReject]⟩
  , ⟨.sAckReceived, .eRecvGoodCodeProtocolReject, .sRequestSent, []⟩
  , ⟨.sAckReceived, .eRecvBadCodeProtocolReject, .sStopped, [.thisLayerFinish]⟩
  , ⟨.sAckReceived, .eRecvEchoRequest, .sAckReceived, []⟩
  , ⟨.sAckReceived, .eRecvEchoReply, .sAckReceived, []⟩
  -- S_ACK_SENT
  , ⟨.sAckSent, .eDown, .sStarting, []⟩
  , ⟨.sAckSent, .eOpen, .sAckSent, []⟩
  , ⟨.sAckSent, .eClose, .sClosing, [.initRestartTermin, .sendTerminateRequest]⟩
  , ⟨.sAckSent, .eTimeoutCounterPositive, .sAckSent, [.sendConfigRequest]⟩
  , ⟨.sAckSent, .eTimeoutCounterExpired, .sStopped, [.thisLayerFinish]⟩
  , ⟨.sAckSent, .eRecvGoodConfigRequest, .sAckSent, [.sendConfigAck]⟩
  , ⟨.sAckSent, .eRecvBadConfigRequest, .sRequestSent, [.sendConfigNakRej]⟩
  , ⟨.sAckSent, .eRecvConfigAck, .sOpened, [.initRestartCount, .thisLayerUp]⟩
  , ⟨.sAckSent, .eRecvConfigNakRej, .sAckSent, [.initRestartConfig, .sendConfigRequest]⟩
  , ⟨.sAckSent, .eRecvTerminateRequest, .sRequestSent, [.sendTerminateAck]⟩
  , ⟨.sAckSent, .eRecvTerminateAck, .sAckSent, []⟩
  , ⟨.sAckSent, .eRecvUnknownCode, .sAckSent, [.sendCodeReject]⟩
  , ⟨.sAckSent, .eRecvGoodCodeProtocolReject, .sAckSent, []⟩
  , ⟨.sAckSent, .eRecvBadCodeProtocolReject, .sStopped, [.thisLayerFinish]⟩
  , ⟨.sAckSent, .eRecvEchoRequest, .sAckSent, []⟩
  , ⟨.sAckSent, .eRecvEchoReply, .sAckSent, []⟩
  -- S_OPENED
  , ⟨.sOpened, .eDown, .sStarting, [.thisLayerDown]⟩
  , ⟨.sOpened, .eOpen, .sOpened, [.createDownEvent, .createUpEvent]⟩
  , ⟨.sOpened, .eClose, .sClosing, [.thisLayerDown, .initRestartTermin, .sendTerminateRequest]⟩
  , ⟨.sOpened, .eRecvGoodConfigRequest, .sAckSent,
      [.thisLayerDown, .sendConfigRequest, .sendConfigAck]⟩
  , ⟨.sOpened, .eRecvBadConfigRequest, .sRequestSent,
      [.thisLayerDown, .sendConfigRequest, .sendConfigNakRej]⟩
  , ⟨.sOpened, .eRecvConfigAck, .sRequestSent, [.thisLayerDown, .sendConfigRequest]⟩
  , ⟨.sOpened, .eRecvConfigNakRej, .sRequestSent, [.thisLayerDown, .sendConfigRequest]⟩
  , ⟨.sOpened, .eRecvTerminateRequest, .sStopping,
      [.thisLayerDown, .zeroRestartCount, .sendTerminateAck]⟩
  , ⟨.sOpened, .eRecvTerminateAck, .sRequestSent, [.thisLayerDown, .sendConfigRequest]⟩
  , ⟨.sOpened, .eRecvUnknownCode, .sOpened, [.sendCodeReject]⟩
  , ⟨.sOpened, .eRecvGoodCodeProtocolReject, .sOpened, []⟩
  , ⟨.sOpened, .eRecvBadCodeProtocolReject, .sStopping,
      [.thisLayerDown, .initRestartTermin, .sendTerminateRequest]⟩
  , ⟨.sOpened, .eRecvEchoRequest, .sOpened, []⟩
  , ⟨.sOpened, .eRecvEchoReply, .sOpened, []⟩
  ]

/-- `ppp_fsm_tbl`. -/
def pppFsmTbl : PppCp → List PppRow
  | .lcp => pppFsmTblLcp
  | .ipcp => pppFsmTblNcp
  | .ipv6cp => pppFsmTblNcp

/-- The row of a state and an event: the rows of one state stand together, so the two
searches of `PPP_FSM` find the first row that has both. -/
def pppFindRow (cp : PppCp) (st : PppState) (ev : PppEvent) : Option Nat :=
  (pppFsmTbl cp).findIdx? fun r => r.state = st ∧ r.event = ev

/-- `ppp_fsm_tbl[cp_id][i].hdl[j]`. -/
def pppHdl (cp : PppCp) (i j : Nat) : Option PppAction := do
  let r ← (pppFsmTbl cp)[i]?
  r.hdl[j]?

/-! ### Timers and frames -/

/-- The `ppp_timer` argument of the automaton: one of the two restart timers. -/
inductive PppTimerId
  | ppp
  | pppIpv6cp
  deriving DecidableEq

namespace PppCcb

def stopTimer (s : PppCcb) (tim : PppTimerId) : PppCcb :=
  { s with ppp := if tim = .ppp then none else s.ppp
           pppIpv6cp := if tim = .ppp then s.pppIpv6cp else none }

/-- `rte_timer_reset` of a restart timer. -/
def armTimer (s : PppCcb) (cb : PppTimerCb) (tim : PppTimerId) : PppCcb :=
  { s with ppp := if tim = .ppp then some cb else s.ppp
           pppIpv6cp := if tim = .ppp then s.pppIpv6cp else some cb }

/-- What `build_config_request` writes: a fresh identifier, and the request is pending. -/
def buildConfigRequest (s : PppCcb) : PppCcb :=
  let id := s.identifier.get s.cpId
  { s with identifier := s.identifier.set s.cpId (id % 255 + 1) }.setPending s.cpId true

/-- The identifier `ppp_ipv6cp_iid_init` derives from a MAC address. -/
def iidOfMac (mac : BitVec 48) : BitVec 64 :=
  (mac.extractLsb' 24 24 ^^^ 0x020000) ++ 0xfffe#16 ++ mac.extractLsb' 0 24

/-- `ppp_ipv6cp_iid_init`. -/
def ipv6cpIidInit (env : PppEnv) (s : PppCcb) : PppCcb :=
  if s.params.ipv6cpLocalIid = 0 then
    { s with params := { s.params with ipv6cpLocalIid := iidOfMac env.hsiWanSrcMac } }
  else s

/-- The keepalive probe starts counting from zero. -/
def startKeepalive (s : PppCcb) : PppCcb := { s with echoMissCount := 0, pppAlive := true }

def enterPhase (s : PppCcb) (phase : Nat) : PppCcb := { s with phase := phase }

/-- What `A_this_layer_down` does when LCP goes down, before it closes: no network protocol
and no IPv6 above it, and the gate shut. -/
def lcpDown (s : PppCcb) : PppCcb :=
  { ((s.ipv6Down.setPending .ipv6cp false).setState .ipcp .sInit).setState .ipv6cp .sInit with
      dpStartBool := false, pppIpv6cp := none }

end PppCcb

/-- `ppp_phase_rollback`. -/
def pppPhaseRollback (phase : Nat) : Nat := if lcpPhase ≤ phase then phase - 2 else endPhase

/-! ### The automaton -/

/-- What a call of the automaton does to a control block. -/
abbrev PppFsm := PppTimerId → PppEvent → PppCcb → Status × PppCcb

section Reentrant

variable (env : PppEnv) (fsm : PppFsm)

/-- The first half of `PPP_bye`: everything stopped, IPv6 down, the gate shut. -/
def byeStop (s : PppCcb) : PppCcb :=
  { s.ipv6Down.setPending .ipv6cp false with
      ppp := none, pppIpv6cp := none, pppoe := none, pppAlive := false, dpStartBool := false }

/-- `PPP_bye` in `END_PHASE`, and in a phase it does not name. -/
def byeExit (s : PppCcb) : PppCcb :=
  { s with pppBool := false, pppProcessing := false }.exitPpp

/-- `PPP_bye` from `LCP_PHASE` on: close LCP, which takes the rest with it. -/
def byeClose (s : PppCcb) : PppCcb :=
  let s := { s with pppProcessing := true, cpId := .lcp }
  (fsm .ppp .eClose ((s.setState .ipcp .sInit).setState .ipv6cp .sInit)).2

/-- `PPP_bye`. -/
def pppBye (s : PppCcb) : PppCcb :=
  let s := byeStop s
  if s.phase = endPhase then byeExit s
  else if s.phase = pppoePhase then
    byeExit (byeStop { s with phase := endPhase }.resetStates)
  else if s.phase = lcpPhase then byeClose fsm s
  else if s.phase = dataPhase ∨ s.phase = ipcpPhase then
    byeClose fsm { s.shutGate with phase := lcpPhase }
  else byeExit s

/-- `pppoe_send_pkt(ENCODE_PADT)`. -/
def sendPadtPkt (s : PppCcb) : PppCcb :=
  pppBye fsm { s with phase := pppoePhase, pppoePhase := { s.pppoePhase with active := false } }

/-- Opening the network protocols: IPCP, and IPV6CP when the subscriber has IPv6. -/
def openNcps (s : PppCcb) : PppCcb :=
  let s := (fsm .ppp .eOpen { s with cpId := .ipcp, phase := ipcpPhase }).2
  if s.ipv6Enabled then
    (fsm .pppIpv6cp .eOpen { s.ipv6cpIidInit env with cpId := .ipv6cp }).2
  else s

/-- `lcp_layer_up`. -/
def lcpLayerUp (s : PppCcb) : PppCcb :=
  let s := s.startKeepalive
  if s.params.lcpAuthRejected && !s.params.peerRequiresAuth then openNcps env fsm s
  else if s.params.authMethod = papProtocol then s.enterPhase authPhase
  else if s.params.authMethod = chapProtocol then s.enterPhase authPhase
  else s

/-- The address `ipcp_layer_up` puts where the peer assigned no resolver. -/
def dnsOr (dns dflt : BitVec 32) : BitVec 32 := if dns = 0xffffffff ∨ dns = 0 then dflt else dns

/-- `ipcp_layer_up`. -/
def ipcpLayerUp (s : PppCcb) : Status × PppCcb :=
  (env.dnsProxyInit,
    { s with
        dpStartBool := true
        phase := dataPhase
        params := { s.params with
          hsiPrimaryDns := dnsOr s.params.hsiPrimaryDns 0x08080808
          hsiSecondaryDns := dnsOr s.params.hsiSecondaryDns 0x01010101 } })

/-- `ipv6cp_layer_up`. -/
def ipv6cpLayerUp (s : PppCcb) : PppCcb :=
  ({ s with ipv6cpUp := true }.ipv6DpGateUpdate).dhcp6PdStart

/-- `A_this_layer_up`, which goes by the protocol of the frame stored last. -/
def thisLayerUp (s : PppCcb) : Status × PppCcb :=
  let proto := (s.controlProtocol.get s.cpId).pppProtocol
  if proto = lcpProtocol then (.success, lcpLayerUp env fsm s)
  else if proto = ipcpProtocol then ipcpLayerUp env s
  else if proto = ipv6cpProtocol then (.success, ipv6cpLayerUp s)
  else (.success, s)

/-- `A_this_layer_down`. -/
def thisLayerDown (tim : PppTimerId) (s : PppCcb) : PppCcb :=
  match s.cpId with
  | .ipv6cp => (fsm tim .eClose s.ipv6Down).2
  | .ipcp => (fsm tim .eClose s).2.shutGate
  | .lcp => (fsm tim .eClose s.lcpDown).2

/-- `A_create_close_to_lower_layer`. -/
def createCloseToLowerLayer (tim : PppTimerId) (s : PppCcb) : PppCcb :=
  if s.cpId = .ipv6cp then s.ipv6cpStop
  else (fsm tim .eClose
    { s with cpId := .lcp, phase := pppPhaseRollback s.phase, pppAlive := false }).2

/-- `A_send_config_request`; with nothing left to count, the timeout event instead. -/
def sendConfigRequest (tim : PppTimerId) (s : PppCcb) : PppCcb :=
  if s.timerCounter s.cpId = 0 then (fsm tim .eTimeoutCounterExpired (s.stopTimer tim)).2
  else s.buildConfigRequest.setTimerCounter s.cpId (s.timerCounter s.cpId - 1)

/-- `A_send_terminate_request`. -/
def sendTerminateRequest (tim : PppTimerId) (s : PppCcb) : PppCcb :=
  if s.timerCounter s.cpId = 0 then (fsm tim .eTimeoutCounterExpired (s.stopTimer tim)).2
  else s.setTimerCounter s.cpId (s.timerCounter s.cpId - 1)

/-- `A_init_restart_config` and `A_init_restart_termin`, which differ in the callback. -/
def initRestart (cb : PppCp → PppTimerCb) (tim : PppTimerId) (s : PppCcb) : PppCcb :=
  ((s.stopTimer tim).setTimerCounter s.cpId 9).armTimer (cb s.cpId) tim

/-- One action. -/
def runAction (tim : PppTimerId) (s : PppCcb) : PppAction → Status × PppCcb
  | .thisLayerStart => (.success, (fsm tim .eUp s).2)
  | .thisLayerFinish =>
      (.success, if s.cpId = .ipv6cp then createCloseToLowerLayer fsm tim s
        else (fsm tim .eDown s).2)
  | .thisLayerUp => thisLayerUp env fsm s
  | .thisLayerDown => (.success, thisLayerDown fsm tim s)
  | .initRestartConfig => (.success, initRestart .sendConfigRequest tim s)
  | .initRestartTermin => (.success, initRestart .sendTerminateRequest tim s)
  | .sendConfigRequest => (.success, sendConfigRequest fsm tim s)
  | .sendTerminateRequest => (.success, sendTerminateRequest fsm tim s)
  | .createDownEvent => (.success, (fsm tim .eDown s).2)
  | .sendPadt => (.success, { sendPadtPkt fsm s with phase := endPhase })
  | .createCloseToLowerLayer => (.success, createCloseToLowerLayer fsm tim s)
  -- these only send a frame, or only write to the log
  | .initRestartCount | .zeroRestartCount | .createUpEvent | .sendConfigNakRej
  | .sendConfigAck | .sendTerminateAck | .sendCodeReject | .sendEchoReply => (.success, s)

/-- What a run of a row leaves: its status, the block, and the actions that ran, each
with the protocol that was current when it was called. -/
structure PppRun where
  status : Status
  ccb : PppCcb
  ran : List (PppCp × PppAction)

/-- The loop over `hdl`, from the `j`-th entry on, with `k` entries of the array left. -/
def runHdl (tim : PppTimerId) (i : Nat) : Nat → Nat → PppCcb → PppRun
  | 0, _, s => ⟨.success, s, []⟩
  | k + 1, j, s =>
      match pppHdl s.cpId i j with
      | none => ⟨.success, s, []⟩
      | some a =>
          let (st, s') := runAction env fsm tim (s.setTimerCounter s.cpId 10) a
          if st = .error then ⟨.error, s', [(s.cpId, a)]⟩
          else
            let rest := runHdl tim i k (j + 1) s'
            { rest with ran := (s.cpId, a) :: rest.ran }

/-- One call of `PPP_FSM`, re-entering itself as `fsm`.  An event without a row is ignored. -/
def pppFsmRun (tim : PppTimerId) (ev : PppEvent) (s : PppCcb) : PppRun :=
  match pppFindRow s.cpId (s.state s.cpId) ev with
  | none => ⟨.success, s, []⟩
  | some i =>
      let next := ((pppFsmTbl s.cpId)[i]?.map PppRow.nextState).getD (s.state s.cpId)
      runHdl env fsm tim i 10 0 (s.setState s.cpId next)

def pppFsmBody : PppFsm := fun tim ev s =>
  let r := pppFsmRun env fsm tim ev s
  (r.status, r.ccb)

end Reentrant

/-- `PPP_FSM`, unrolled as deep as its calls go. -/
def pppFsm (env : PppEnv) : PppFsm :=
  (pppFsmBody env)^[5] fun _ _ s => (.error, s)

end FastRG
