/-
The automaton against RFC 1661.

A call of `PPP_FSM` re-enters itself, changes the current protocol on the way and may close the
layers around it.  What it is meant to come to is one table lookup and the feedback the RFC
allows: an Up where the row starts the layer, a Down where it finishes it.  `layerNext` is that
automaton; it sees one protocol and calls nothing.

`pppFsm_refines` compares the two on every call.  They agree up to one thing the code does on
purpose: IPV6CP has no lower layer of its own to take down, so where it finishes it is parked in
`S_STOPPED`, and the IPv4 session goes on.  Where the session ended instead, all three automata
are in `S_INIT`.

Nothing is said of a layer that This-Layer-Down is run on when it was not told to close: it then
delivers a Close to itself, where the comment above it speaks of the upper layer.
-/
import FastRG.Proofs.PppFrames

namespace FastRG

variable {env : PppEnv} {tim : PppTimerId} {s t : PppCcb} {ev : PppEvent} {cp : PppCp}
  {o : Option PppState}

/-! ### The automaton of the RFC -/

/-- The actions that finish a layer. -/
def PppAction.finishes : PppAction → Bool
  | .thisLayerFinish | .createCloseToLowerLayer => true
  | _ => false

/-- The state after an event, following at most `n` events of feedback.  `parked` says whether
a layer that finishes is parked. -/
def layerNextN (parked : Bool) (cp : PppCp) : Nat → PppState → PppEvent → PppState
  | 0, st, _ => st
  | n + 1, st, ev =>
      match pppRow cp st ev with
      | none => st
      | some r =>
          if parked && r.hdl.any PppAction.finishes then .sStopped
          else
            let st := if .thisLayerStart ∈ r.hdl then layerNextN parked cp n r.nextState .eUp
              else r.nextState
            if .thisLayerFinish ∈ r.hdl ∨ .createDownEvent ∈ r.hdl then
              layerNextN parked cp n st .eDown
            else st

/-- The state after an event.  A Down may start the layer, so the feedback is two events
deep. -/
def layerNext (parked : Bool) (cp : PppCp) : PppState → PppEvent → PppState :=
  layerNextN parked cp 3

/-- IPV6CP is parked where it finishes. -/
def PppCp.parks (cp : PppCp) : Bool := cp = .ipv6cp

/-- The session ended in this call. -/
structure Ended (s t : PppCcb) : Prop where
  phase : t.phase = endPhase
  exit : t.disconnects = s.disconnects + 1
  states : ∀ cp, t.state cp = .sInit

/-- This-Layer-Down runs on an open layer that was not told to close.  LCP that goes down
is left out: there the session ends. -/
def closesItself (cp : PppCp) (st : PppState) (ev : PppEvent) : Bool :=
  st = .sOpened &&
    match ev with
    | .eDown | .eOpen => cp ≠ .lcp
    | .eClose => false
    | _ => .thisLayerDown ∈ rowHdl cp st ev

/-! ### Where a call lands -/

/-- The state a protocol is left in, none standing for the end of the session. -/
def Lands (cp : PppCp) (s t : PppCcb) (o : Option PppState) : Prop :=
  Ended s t ∨ some (t.state cp) = o

theorem Lands.of_core (h : Lands cp s t o) {u : PppCcb} (hcore : u.core = t.core) :
    Lands cp s u o := by
  rcases h with h | h
  · refine Or.inl ⟨?_, ?_, fun cp => (state_of_core hcore cp).trans (h.states cp)⟩
    · have hp : u.core.phase = t.core.phase := by rw [hcore]
      exact hp.trans h.phase
    · have hd : u.core.disconnects = t.core.disconnects := by rw [hcore]
      exact hd.trans h.exit
  · refine Or.inr ?_
    rw [state_of_core hcore]
    exact h

theorem lands_ended (cp : PppCp) (s : PppCcb) : Lands cp s s.ended o :=
  Or.inl ⟨rfl, rfl, fun cp => by cases cp <;> rfl⟩

theorem lands_setState (s : PppCcb) (cp : PppCp) (st : PppState) :
    Lands cp s (s.setState cp st) (some st) :=
  Or.inr (by rw [state_setState_self])

theorem lands_stay (s : PppCcb) (cp : PppCp) : Lands cp s s (some (s.state cp)) := Or.inr rfl

theorem lands_restart (s : PppCcb) (tim : PppTimerId) :
    Lands s.cpId s (s.restart tim) (some .sRequestSent) := by
  refine Or.inr (congrArg some ?_)
  exact state_setState_self s s.cpId .sRequestSent

theorem lands_terminate (s : PppCcb) (tim : PppTimerId) :
    Lands s.cpId s (s.terminate tim) (some .sClosing) := by
  refine Or.inr (congrArg some ?_)
  exact state_setState_self s s.cpId .sClosing

theorem lands_park (h : s.cpId = .ipv6cp) : Lands s.cpId s s.ipv6cpStop (some .sStopped) := by
  rw [h]
  exact Or.inr rfl

theorem lands_layerDown (s : PppCcb) (tim : PppTimerId) :
    Lands s.cpId s (s.layerDown.terminate tim) (some .sClosing) := by
  refine Or.inr (congrArg some ?_)
  unfold PppCcb.terminate
  rw [cpId_layerDown]
  exact state_setState_self s.layerDown s.cpId .sClosing

/-- Where an Up leads. -/
def upTo : PppState → PppState
  | .sInit => .sClosed
  | .sStarting => .sRequestSent
  | st => st

theorem lands_upMove (s : PppCcb) (tim : PppTimerId) :
    Lands s.cpId s (s.upMove tim) (some (upTo (s.state s.cpId))) := by
  unfold PppCcb.upMove
  cases hst : s.state s.cpId
  case sInit => exact lands_setState s s.cpId .sClosed
  case sStarting => exact lands_restart s tim
  all_goals exact Or.inr (congrArg some hst)

/-- Where a Close leads. -/
def closeTo (cp : PppCp) : PppState → Option PppState
  | .sStarting => match cp with
      | .lcp => none
      | .ipcp => some .sInit
      | .ipv6cp => some .sStopped
  | .sStopped => if cp = .lcp then none else some .sClosed
  | .sStopping | .sRequestSent | .sAckReceived | .sAckSent | .sOpened => some .sClosing
  | st => some st

theorem lands_closeMove (s : PppCcb) (tim : PppTimerId) :
    Lands s.cpId s (s.closeMove tim) (closeTo s.cpId (s.state s.cpId)) := by
  unfold PppCcb.closeMove
  cases hst : s.state s.cpId
  case sStarting =>
    cases hcp : s.cpId
    · exact lands_ended _ s
    · exact lands_setState s .ipcp .sInit
    · exact Or.inr rfl
  case sStopped =>
    by_cases hlcp : s.cpId = .lcp
    · simp only [if_pos hlcp]
      exact lands_ended _ s
    · simp only [if_neg hlcp, closeTo]
      exact lands_setState s s.cpId .sClosed
  case sStopping => exact lands_setState s s.cpId .sClosing
  case sRequestSent | sAckReceived | sAckSent => exact lands_terminate s tim
  case sOpened => exact lands_layerDown s tim
  all_goals exact Or.inr (congrArg some hst)

/-- Where a layer ends up that is finished, or is taken down while open. -/
def finishTo : PppCp → Option PppState
  | .lcp => none
  | .ipcp => some .sInit
  | .ipv6cp => some .sStopped

/-- A Close of LCP leaves IPCP in `S_INIT` if it was there. -/
theorem closeMove_ipcp (hcp : s.cpId = .lcp) (h : s.state .ipcp = .sInit) (tim : PppTimerId) :
    Lands .ipcp s (s.closeMove tim) (some .sInit) := by
  have hset : ∀ st, (s.setState .lcp st).state .ipcp = .sInit := fun _ => h
  have hdown : s.layerDown.state .ipcp = .sInit := by
    unfold PppCcb.layerDown
    rw [hcp]
    rfl
  unfold PppCcb.closeMove
  rw [hcp]
  split
  case h_1 => exact lands_ended .ipcp s
  case h_2 => exact lands_ended .ipcp s
  case h_3 => exact Or.inr (congrArg some (hset .sClosing))
  case h_4 | h_5 | h_6 =>
    unfold PppCcb.terminate
    rw [hcp]
    exact Or.inr (congrArg some (hset .sClosing))
  case h_7 =>
    unfold PppCcb.terminate
    rw [cpId_layerDown, hcp]
    exact Or.inr (congrArg some hdown)
  case h_8 => exact Or.inr (congrArg some h)

theorem lands_finishMove (s : PppCcb) (tim : PppTimerId) :
    Lands s.cpId s (s.finishMove tim) (finishTo s.cpId) := by
  unfold PppCcb.finishMove PppCcb.closeLower
  cases hcp : s.cpId with
  | lcp => exact lands_ended .lcp s
  | ipcp =>
      rw [if_neg (by decide), if_neg (by rw [cpId_setState, hcp]; decide)]
      rcases closeMove_ipcp (s := { s.setState .ipcp .sInit with
          cpId := .lcp, phase := pppPhaseRollback s.phase, pppAlive := false }) rfl rfl tim with h | h
      · exact Or.inl ⟨h.phase, h.exit, h.states⟩
      · exact Or.inr h
  | ipv6cp =>
      rw [if_neg (by decide), if_pos (by rw [cpId_setState, hcp])]
      exact Or.inr rfl

theorem lands_dropMove (s : PppCcb) : Lands s.cpId s s.dropMove (finishTo s.cpId) := by
  unfold PppCcb.dropMove
  cases hcp : s.cpId with
  | lcp => exact lands_ended .lcp s
  | ipcp => exact Or.inr rfl
  | ipv6cp => exact Or.inr rfl

/-- Where a Down leads. -/
def downTo (cp : PppCp) : PppState → Option PppState
  | .sClosed => finishTo cp
  | .sStopped => some .sRequestSent
  | .sClosing => some .sInit
  | .sStopping | .sRequestSent | .sAckReceived | .sAckSent => some .sStarting
  | .sOpened => finishTo cp
  | st => some st

theorem lands_downMove (s : PppCcb) (tim : PppTimerId) :
    Lands s.cpId s (s.downMove tim) (downTo s.cpId (s.state s.cpId)) := by
  unfold PppCcb.downMove
  cases hst : s.state s.cpId
  case sClosed => exact lands_finishMove s tim
  case sStopped => exact lands_restart s tim
  case sClosing => exact lands_setState s s.cpId .sInit
  case sStopping | sRequestSent | sAckReceived | sAckSent => exact lands_setState s s.cpId .sStarting
  case sOpened => exact lands_dropMove s
  all_goals exact Or.inr (congrArg some hst)

/-- Where an Open leads. -/
def openTo (cp : PppCp) : PppState → Option PppState
  | .sInit | .sClosed | .sStopped => some .sRequestSent
  | .sClosing | .sStopping => some .sStarting
  | .sOpened => finishTo cp
  | st => some st

theorem lands_openMove (s : PppCcb) (tim : PppTimerId) :
    Lands s.cpId s (s.openMove tim) (openTo s.cpId (s.state s.cpId)) := by
  unfold PppCcb.openMove
  cases hst : s.state s.cpId
  case sInit | sClosed | sStopped => exact lands_restart s tim
  case sClosing | sStopping => exact lands_setState s s.cpId .sStarting
  case sOpened => exact lands_dropMove s
  all_goals exact Or.inr (congrArg some hst)

/-- Where a layer that gives up ends up. -/
def giveUpTo (cp : PppCp) : PppState := if cp = .ipv6cp then .sStopped else .sRequestSent

theorem lands_giveUp (s : PppCcb) (tim : PppTimerId) :
    Lands s.cpId s (s.giveUp tim) (some (giveUpTo s.cpId)) := by
  unfold PppCcb.giveUp giveUpTo
  by_cases h6 : s.cpId = .ipv6cp
  · rw [if_pos h6, if_pos h6]
    exact lands_park h6
  · rw [if_neg h6, if_neg h6]
    exact lands_restart s tim

/-! ### Coming up -/

/-- An Open of a network protocol leaves the other states alone. -/
theorem state_openMove_ne (hlcp : s.cpId ≠ .lcp) (hcp : cp ≠ s.cpId) (tim : PppTimerId) :
    (s.openMove tim).state cp = s.state cp := by
  have hset : ∀ st, (s.setState s.cpId st).state cp = s.state cp :=
    fun st => state_setState_ne s st hcp
  have hdrop : s.dropMove.state cp = s.state cp := by
    unfold PppCcb.dropMove
    rw [if_neg hlcp]
    split
    · rename_i h6
      rw [h6] at hcp
      cases cp <;> first | rfl | exact absurd rfl hcp
    · exact hset .sInit
  unfold PppCcb.openMove
  cases s.state s.cpId
  case sInit | sClosed | sStopped => exact hset .sRequestSent
  case sClosing | sStopping => exact hset .sStarting
  case sOpened => exact hdrop
  all_goals rfl

theorem state_openNcpsMove (env : PppEnv) (s : PppCcb) :
    (s.openNcpsMove env).state .lcp = s.state .lcp := by
  have hipcp : (PppCcb.openMove .ppp { s with cpId := .ipcp, phase := ipcpPhase }).state .lcp =
      s.state .lcp := state_openMove_ne (by simp) (by simp) .ppp
  have hiid : ∀ t : PppCcb, (t.ipv6cpIidInit env).state .lcp = t.state .lcp := by
    intro t
    unfold PppCcb.ipv6cpIidInit
    split <;> rfl
  unfold PppCcb.openNcpsMove
  simp only
  split
  · refine (state_openMove_ne (by simp) (by simp) _).trans ?_
    exact (hiid _).trans hipcp
  · exact hipcp

/-- This-Layer-Up leaves its own state alone, the slots being in order. -/
theorem state_layerUp (hs : Slotted s) (env : PppEnv) :
    (s.layerUp env).state s.cpId = s.state s.cpId := by
  have h6 : (ipv6cpLayerUp s).state s.cpId = s.state s.cpId := by
    unfold ipv6cpLayerUp PppCcb.dhcp6PdStart
    split <;> rfl
  have hlcp : (s.lcpUpMove env).state .lcp = s.state .lcp := by
    unfold PppCcb.lcpUpMove
    simp only
    split
    · exact state_openNcpsMove env _
    · split <;> rfl
  unfold PppCcb.layerUp
  simp only
  split
  · rename_i hproto
    -- only the slot of LCP holds LCP frames
    have hslot : s.cpId = .lcp := by
      have hmem := hs s.cpId
      have hget : s.protos.get s.cpId = lcpProtocol := by
        rw [← hproto]
        cases s.cpId <;> rfl
      rw [hget] at hmem
      cases hcp : s.cpId
      · rfl
      · rw [hcp] at hmem
        exact absurd hmem (by decide)
      · rw [hcp] at hmem
        exact absurd hmem (by decide)
    rw [hslot]
    exact hlcp
  · split
    · rfl
    · split
      · exact h6
      · rfl

theorem slotted_setState (hs : Slotted s) (cp : PppCp) (st : PppState) :
    Slotted (s.setState cp st) :=
  slotted_of_slots hs (slots_setState s cp st)

theorem lands_layerUp (hs : Slotted s) (env : PppEnv) :
    Lands s.cpId s ((s.setState s.cpId .sOpened).layerUp env) (some .sOpened) := by
  refine Or.inr (congrArg some ?_)
  have h := state_layerUp (slotted_setState hs s.cpId .sOpened) env
  rw [cpId_setState, state_setState_self] at h
  exact h

/-! ### Every event -/

/-- Where an event leads, for a layer that is not open. -/
def eventTo (cp : PppCp) (ev : PppEvent) (st : PppState) : Option PppState :=
  match ev, st with
  | .eUp, st => some (upTo st)
  | .eDown, st => downTo cp st
  | .eOpen, st => openTo cp st
  | .eClose, st => closeTo cp st
  | .eTimeoutCounterPositive, .sAckReceived => some .sRequestSent
  | .eTimeoutCounterExpired, .sClosing => finishTo cp
  | .eTimeoutCounterExpired, .sStopping => some (giveUpTo cp)
  | .eTimeoutCounterExpired, .sRequestSent => some (giveUpTo cp)
  | .eTimeoutCounterExpired, .sAckReceived => some (giveUpTo cp)
  | .eTimeoutCounterExpired, .sAckSent => some (giveUpTo cp)
  | .eRecvGoodConfigRequest, .sStopped => some .sAckSent
  | .eRecvGoodConfigRequest, .sRequestSent => some .sAckSent
  | .eRecvGoodConfigRequest, .sAckReceived => some .sOpened
  | .eRecvBadConfigRequest, .sStopped => some .sRequestSent
  | .eRecvBadConfigRequest, .sAckSent => some .sRequestSent
  | .eRecvConfigAck, .sRequestSent => some .sAckReceived
  | .eRecvConfigAck, .sAckReceived => some .sRequestSent
  | .eRecvConfigAck, .sAckSent => some .sOpened
  | .eRecvConfigNakRej, .sAckReceived => some .sRequestSent
  | .eRecvTerminateRequest, .sAckReceived => some .sRequestSent
  | .eRecvTerminateRequest, .sAckSent => some .sRequestSent
  | .eRecvTerminateAck, .sClosing => finishTo cp
  | .eRecvTerminateAck, .sStopping => some .sRequestSent
  | .eRecvTerminateAck, .sAckReceived => some .sRequestSent
  | .eRecvGoodCodeProtocolReject, .sAckReceived => some .sRequestSent
  | .eRecvBadCodeProtocolReject, .sClosed => finishTo cp
  | .eRecvBadCodeProtocolReject, .sClosing => finishTo cp
  | .eRecvBadCodeProtocolReject, .sStopped => some (giveUpTo cp)
  | .eRecvBadCodeProtocolReject, .sStopping => some (giveUpTo cp)
  | .eRecvBadCodeProtocolReject, .sRequestSent => some (giveUpTo cp)
  | .eRecvBadCodeProtocolReject, .sAckReceived => some (giveUpTo cp)
  | .eRecvBadCodeProtocolReject, .sAckSent => some (giveUpTo cp)
  | _, st => some st

/-- What takes an open layer down, besides the Close and the Down. -/
theorem unsettles (cp : PppCp) :
    ∀ ev ∈ [PppEvent.eRecvGoodConfigRequest, .eRecvBadConfigRequest, .eRecvConfigAck,
      .eRecvConfigNakRej, .eRecvTerminateRequest, .eRecvTerminateAck, .eRecvBadCodeProtocolReject],
      closesItself cp .sOpened ev = true := by
  cases cp <;> decide

theorem lands_timeout (env : PppEnv) (tim : PppTimerId)
    (hev : ev = .eTimeoutCounterPositive ∨ ev = .eTimeoutCounterExpired) :
    Lands s.cpId s (pppMove env tim ev s) (eventTo s.cpId ev (s.state s.cpId)) := by
  rcases hev with rfl | rfl <;> cases hst : s.state s.cpId <;> simp only [pppMove, hst]
  case inl.sAckReceived => exact lands_setState s s.cpId .sRequestSent
  case inr.sClosing => exact lands_finishMove s tim
  case inr.sStopping | inr.sRequestSent | inr.sAckReceived | inr.sAckSent => exact lands_giveUp s tim
  all_goals exact Or.inr (congrArg some hst)

theorem lands_request (hs : Slotted s) (env : PppEnv) (tim : PppTimerId)
    (hopen : closesItself s.cpId (s.state s.cpId) ev = false)
    (hev : ev = .eRecvGoodConfigRequest ∨ ev = .eRecvBadConfigRequest) :
    Lands s.cpId s (pppMove env tim ev s) (eventTo s.cpId ev (s.state s.cpId)) := by
  rcases hev with rfl | rfl <;> cases hst : s.state s.cpId <;> simp only [pppMove, hst]
  case inl.sStopped => exact Or.inr (congrArg some (state_setState_self s s.cpId .sAckSent))
  case inl.sRequestSent => exact lands_setState s s.cpId .sAckSent
  case inl.sAckReceived => exact lands_layerUp hs env
  case inr.sStopped => exact lands_restart s tim
  case inr.sAckSent => exact lands_setState s s.cpId .sRequestSent
  case inl.sOpened | inr.sOpened =>
    rw [hst, unsettles _ _ (by decide)] at hopen
    exact absurd hopen (by decide)
  all_goals exact Or.inr (congrArg some hst)

theorem lands_answer (hs : Slotted s) (env : PppEnv) (tim : PppTimerId)
    (hopen : closesItself s.cpId (s.state s.cpId) ev = false)
    (hev : ev = .eRecvConfigAck ∨ ev = .eRecvConfigNakRej) :
    Lands s.cpId s (pppMove env tim ev s) (eventTo s.cpId ev (s.state s.cpId)) := by
  rcases hev with rfl | rfl <;> cases hst : s.state s.cpId <;> simp only [pppMove, hst]
  case inl.sRequestSent => exact lands_setState s s.cpId .sAckReceived
  case inl.sAckReceived | inr.sAckReceived => exact lands_setState s s.cpId .sRequestSent
  case inl.sAckSent => exact lands_layerUp hs env
  case inr.sRequestSent => exact lands_restart s tim
  case inl.sOpened | inr.sOpened =>
    rw [hst, unsettles _ _ (by decide)] at hopen
    exact absurd hopen (by decide)
  all_goals exact Or.inr (congrArg some hst)

theorem lands_terminating (env : PppEnv) (tim : PppTimerId)
    (hopen : closesItself s.cpId (s.state s.cpId) ev = false)
    (hev : ev = .eRecvTerminateRequest ∨ ev = .eRecvTerminateAck) :
    Lands s.cpId s (pppMove env tim ev s) (eventTo s.cpId ev (s.state s.cpId)) := by
  rcases hev with rfl | rfl <;> cases hst : s.state s.cpId <;> simp only [pppMove, hst]
  case inl.sAckReceived | inl.sAckSent | inr.sAckReceived =>
    exact lands_setState s s.cpId .sRequestSent
  case inr.sClosing => exact lands_finishMove s tim
  case inr.sStopping => exact lands_restart s tim
  case inl.sOpened | inr.sOpened =>
    rw [hst, unsettles _ _ (by decide)] at hopen
    exact absurd hopen (by decide)
  all_goals exact Or.inr (congrArg some hst)

theorem lands_reject (env : PppEnv) (tim : PppTimerId)
    (hopen : closesItself s.cpId (s.state s.cpId) ev = false)
    (hev : ev = .eRecvUnknownCode ∨ ev = .eRecvGoodCodeProtocolReject ∨
      ev = .eRecvBadCodeProtocolReject) :
    Lands s.cpId s (pppMove env tim ev s) (eventTo s.cpId ev (s.state s.cpId)) := by
  rcases hev with rfl | rfl | rfl <;> cases hst : s.state s.cpId <;>
    simp only [pppMove, hst]
  case inr.inl.sAckReceived => exact lands_setState s s.cpId .sRequestSent
  case inr.inr.sClosed | inr.inr.sClosing => exact lands_finishMove s tim
  case inr.inr.sStopped | inr.inr.sStopping | inr.inr.sRequestSent | inr.inr.sAckReceived |
      inr.inr.sAckSent => exact lands_giveUp s tim
  case inr.inr.sOpened =>
    rw [hst, unsettles _ _ (by decide)] at hopen
    exact absurd hopen (by decide)
  all_goals exact Or.inr (congrArg some hst)

/-- Where a call lands. -/
theorem lands_pppMove (hs : Slotted s) (env : PppEnv) (tim : PppTimerId)
    (hopen : closesItself s.cpId (s.state s.cpId) ev = false) :
    Lands s.cpId s (pppMove env tim ev s) (eventTo s.cpId ev (s.state s.cpId)) := by
  cases ev with
  | eUp => exact lands_upMove s tim
  | eDown => exact lands_downMove s tim
  | eOpen => exact lands_openMove s tim
  | eClose => exact lands_closeMove s tim
  | eTimeoutCounterPositive => exact lands_timeout env tim (Or.inl rfl)
  | eTimeoutCounterExpired => exact lands_timeout env tim (Or.inr rfl)
  | eRecvGoodConfigRequest => exact lands_request hs env tim hopen (Or.inl rfl)
  | eRecvBadConfigRequest => exact lands_request hs env tim hopen (Or.inr rfl)
  | eRecvConfigAck => exact lands_answer hs env tim hopen (Or.inl rfl)
  | eRecvConfigNakRej => exact lands_answer hs env tim hopen (Or.inr rfl)
  | eRecvTerminateRequest => exact lands_terminating env tim hopen (Or.inl rfl)
  | eRecvTerminateAck => exact lands_terminating env tim hopen (Or.inr rfl)
  | eRecvUnknownCode => exact lands_reject env tim hopen (Or.inl rfl)
  | eRecvGoodCodeProtocolReject => exact lands_reject env tim hopen (Or.inr (Or.inl rfl))
  | eRecvBadCodeProtocolReject => exact lands_reject env tim hopen (Or.inr (Or.inr rfl))
  | eRecvEchoRequest => exact lands_stay s s.cpId
  | eRecvEchoReply => exact lands_stay s s.cpId
  | eUnknown => exact lands_stay s s.cpId
/-! ### The two automata -/

def allStates : List PppState :=
  [.sInit, .sStarting, .sClosed, .sStopped, .sClosing, .sStopping, .sRequestSent, .sAckReceived,
    .sAckSent, .sOpened]

def allEvents : List PppEvent :=
  [.eUp, .eDown, .eOpen, .eClose, .eTimeoutCounterPositive, .eTimeoutCounterExpired,
    .eRecvGoodConfigRequest, .eRecvBadConfigRequest, .eRecvConfigAck, .eRecvConfigNakRej,
    .eRecvTerminateRequest, .eRecvTerminateAck, .eRecvUnknownCode, .eRecvGoodCodeProtocolReject,
    .eRecvBadCodeProtocolReject, .eRecvEchoRequest, .eRecvEchoReply, .eUnknown]

theorem eventTo_table : ∀ cp ∈ [PppCp.lcp, .ipcp, .ipv6cp], ∀ st ∈ allStates, ∀ ev ∈ allEvents,
    closesItself cp st ev = false → ∀ st' ∈ eventTo cp ev st,
      st' = layerNext cp.parks cp st ev := by
  decide

/-- The table and its feedback, folded up, are the automaton of the RFC. -/
theorem eventTo_eq {st st' : PppState} (hopen : closesItself cp st ev = false)
    (h : eventTo cp ev st = some st') : st' = layerNext cp.parks cp st ev :=
  eventTo_table cp (by cases cp <;> decide) st (by cases st <;> decide) ev
    (by cases ev <;> decide) hopen st' h

/-! ### Refinement -/

/-- Where a call of `PPP_FSM` leaves its protocol. -/
theorem pppFsm_lands (hs : Slotted s) (env : PppEnv) (tim : PppTimerId)
    (hopen : closesItself s.cpId (s.state s.cpId) ev = false) :
    (pppFsm env tim ev s).2.state s.cpId =
        layerNext s.cpId.parks s.cpId (s.state s.cpId) ev ∨
      Ended s (pppFsm env tim ev s).2 := by
  rcases (lands_pppMove hs env tim hopen).of_core (pppFsm_move env tim ev s).core with h | h
  · exact Or.inr h
  · exact Or.inl (eventTo_eq hopen h.symm)

end FastRG
