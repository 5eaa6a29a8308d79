/-
What the DHCP server sends to the LAN, byte for byte.

A reply is one for the packet at hand when a client can take it for that: it comes from the
gateway's server port, repeats the client's transaction and hardware address, and its options are
the ones the automaton chose, as long as its headers say.  `DhcpWire.RepliesTo` is that, and
`OnlyReplies` says it of whatever is sent.

Three things are needed for it.  The row of the automaton has to build a reply; the entry that
decoding has come to has to point at this packet's message; and the packet has to have an IP
header without options, because the lengths of a reply are counted from such a header and the
one in the buffer is kept.
-/
import FastRG.DhcpWire
import FastRG.Proofs.CtrlTx

namespace FastRG

variable {hz now : Nat} {lanMac : BitVec 48} {ccb ccb' c : DhcpCcb} {i cur own : Nat}

/-! ### Replies -/

/-- The message type a handler puts into its reply, when it builds one. -/
def DhcpHandler.msg : DhcpHandler → Option DhcpMsg
  | .sendDhcpOffer => some .offer
  | .sendDhcpAck => some .ack
  | .sendDhcpNak => some .nak
  | .sendDhcpAckInform => some .ack
  | .waitRequestTimer => none
  | .waitLeaseTimer => none
  | .release => none
  | .markIpConflicted => none

/-- The values of the options of one type. -/
def optValues (ty : BitVec 8) (os : List EndMarked.Opt) : List (List (BitVec 8)) :=
  (os.filter (·.1 = ty)).map (·.2)

/-- The options of a message: all bytes that the UDP header counts behind the fixed header. -/
def DhcpWire.readOpts (w : DhcpWire) : Option (List EndMarked.Opt) :=
  let len := w.dgramLen.toNat - udpHdrLen - dhcpHdrLen
  EndMarked.read dhcpOptEnd w.opt len (len + 1) 0

/-- A reply to a packet, of one message type, from a server. -/
structure DhcpWire.RepliesTo (recv : DhcpRecv) (lanMac : BitVec 48) (serverIp : BitVec 32)
    (msg : DhcpMsg) (w : DhcpWire) : Prop where
  ethSrc : w.ethSrc = lanMac
  udpSrc : w.udpSrc = dhcpServerPort
  msgType : w.msgType = bootReply
  transactionId : w.transactionId = recv.transactionId
  macAddr : w.macAddr = recv.macAddr
  opts : ∃ os, w.readOpts = some os ∧ optValues dhcpOptMsgType os = [[msg.code]] ∧
    optValues dhcpOptServerId os = [leOctets32 serverIp]
  lengths : w.ipTotal.toNat = 4 * w.ihl.toNat + w.dgramLen.toNat

/-- Whatever is sent to the LAN for a packet is a reply to it, of the type the automaton chose. -/
def OnlyReplies (hz now : Nat) (lanMac : BitVec 48) (ccb : DhcpCcb) (recv : DhcpRecv) : Prop :=
  ∀ w ∈ fastrgLoopDhcpLan hz now lanMac ccb recv,
    ∃ c cur row, dhcpdRow hz now ccb recv.frame.pkt = some (c, cur, row) ∧
      ∃ h ∈ row.hdl.head?, ∃ msg ∈ h.msg, w.RepliesTo recv lanMac ccb.dhcpServerIp msg

/-- A handler that builds a reply, in the packet's own buffer, to a packet without IP options. -/
structure DhcpRecv.AnsweredAt (recv : DhcpRecv) (ccb : DhcpCcb) (i : Nat) (h : DhcpHandler) :
    Prop where
  builds : h.msg.isSome = true
  inPlace : (ccb.user i).dhcpHdr = some ccb.pkt.buf
  plain : recv.ihl = 5

/-- The same of a packet: where its row starts with a handler that comes to its end. -/
def DhcpRecv.Answered (hz now : Nat) (ccb : DhcpCcb) (recv : DhcpRecv) : Prop :=
  ∀ c cur row, dhcpdRow hz now ccb recv.frame.pkt = some (c, cur, row) →
    ∀ h ∈ row.hdl.head?, h.completes c cur = true → recv.AnsweredAt c cur h

theorem DhcpHandler.opts_of_msg {h : DhcpHandler} {msg : DhcpMsg} (hmsg : h.msg = some msg)
    (ccb : DhcpCcb) : ∃ opts, h.opts ccb = some opts := by
  cases h with
  | sendDhcpOffer => exact ⟨_, rfl⟩
  | sendDhcpAck => exact ⟨_, rfl⟩
  | sendDhcpNak => exact ⟨_, rfl⟩
  | sendDhcpAckInform => exact ⟨_, rfl⟩
  | waitRequestTimer => cases hmsg
  | waitLeaseTimer => cases hmsg
  | release => cases hmsg
  | markIpConflicted => cases hmsg

/-- The options of a handler name the server once, and no message type. -/
theorem DhcpHandler.opts_stored {h : DhcpHandler} {opts : List DhcpReplyOpt}
    (hopts : h.opts ccb = some opts) :
    optValues dhcpOptMsgType (opts.map DhcpReplyOpt.stored) = [] ∧
      optValues dhcpOptServerId (opts.map DhcpReplyOpt.stored) = [leOctets32 ccb.dhcpServerIp] := by
  cases h with
  | sendDhcpOffer => obtain rfl := Option.some.inj hopts; exact ⟨rfl, rfl⟩
  | sendDhcpAck => obtain rfl := Option.some.inj hopts; exact ⟨rfl, rfl⟩
  | sendDhcpNak => obtain rfl := Option.some.inj hopts; exact ⟨rfl, rfl⟩
  | sendDhcpAckInform => obtain rfl := Option.some.inj hopts; exact ⟨rfl, rfl⟩
  | waitRequestTimer => cases hopts
  | waitLeaseTimer => cases hopts
  | release => cases hopts
  | markIpConflicted => cases hopts

/-- The message a handler builds has its message type. -/
theorem DhcpHandler.msg_of_run {h : DhcpHandler} {status : Status} {reply : DhcpReply}
    {body : DhcpBody} (hrun : h.run hz now ccb i = some ⟨status, c, some reply⟩)
    (hbody : reply.body = some body) : h.msg = some body.msg := by
  have hdhcp : ∀ {a : DhcpCcb} {buf : Nat} {broadcast : Bool} {ipDst : BitVec 32} {b : DhcpBody},
      (dhcpReply a buf broadcast ipDst b).body = some body → b = body := by
    intro a buf broadcast ipDst b hb
    unfold dhcpReply at hb
    simp only at hb
    split at hb
    · exact Option.some.inj hb
    · cases hb
  cases h with
  | sendDhcpOffer =>
      simp only [run, FastRG.sendDhcpOffer] at hrun
      split at hrun
      · cases hrun
      split at hrun
      · cases hrun
      · obtain rfl := Option.some.inj (DhcpDone.mk.inj (Option.some.inj hrun)).2.2
        rw [← hdhcp hbody]
        rfl
  | sendDhcpAck =>
      simp only [run, FastRG.sendDhcpAck] at hrun
      split at hrun
      · cases hrun
      · obtain rfl := Option.some.inj (DhcpDone.mk.inj (Option.some.inj hrun)).2.2
        rw [← hdhcp hbody]
        rfl
  | sendDhcpNak =>
      simp only [run, FastRG.sendDhcpNak] at hrun
      split at hrun
      · cases hrun
      · obtain rfl := Option.some.inj (DhcpDone.mk.inj (Option.some.inj hrun)).2.2
        rw [← hdhcp hbody]
        rfl
  | sendDhcpAckInform =>
      simp only [run, FastRG.sendDhcpAckInform] at hrun
      split at hrun
      · cases hrun
      · obtain rfl := Option.some.inj (DhcpDone.mk.inj (Option.some.inj hrun)).2.2
        rw [← hdhcp hbody]
        rfl
  | waitRequestTimer => cases hrun
  | waitLeaseTimer => cases hrun
  | release => cases hrun
  | markIpConflicted => cases hrun

/-! ### The options of a reply -/

theorem DhcpReplyOpt.stored_sound (opt : DhcpReplyOpt) :
    EndMarked.Sound dhcpOptEnd opt.stored := by
  cases opt with
  | serverId ip => exact ⟨by simp [stored, dhcpOptServerId, dhcpOptEnd], by simp [stored, leOctets32]⟩
  | subnetMask mask =>
      exact ⟨by simp [stored, dhcpOptSubnetMask, dhcpOptEnd], by simp [stored, leOctets32]⟩
  | leaseTime secs =>
      exact ⟨by simp [stored, dhcpOptLeaseTime, dhcpOptEnd], by simp [stored, leOctets32]⟩
  | router ip => exact ⟨by simp [stored, dhcpOptRouter, dhcpOptEnd], by simp [stored, leOctets32]⟩
  | dns dns1 dns2 => exact ⟨by simp [stored, dhcpOptDns, dhcpOptEnd], by simp [stored, leOctets32]⟩
  | clientId mac =>
      exact ⟨by simp [stored, dhcpOptClientId, dhcpOptEnd], by simp [stored, macOctets]⟩

/-- The sizes that lengths are counted with are those of the bytes. -/
theorem length_octets_stored (opts : List DhcpReplyOpt) :
    (EndMarked.octets dhcpOptEnd (opts.map DhcpReplyOpt.stored)).length = dhcpOptsSize opts := by
  induction opts with
  | nil => rfl
  | cons opt rest ih =>
      simp only [List.map_cons, EndMarked.octets, List.length_cons, List.length_append, ih,
        dhcpOptsSize]
      cases opt with
      | serverId ip => simp [DhcpReplyOpt.stored, DhcpReplyOpt.size, leOctets32]; omega
      | subnetMask mask => simp [DhcpReplyOpt.stored, DhcpReplyOpt.size, leOctets32]; omega
      | leaseTime secs => simp [DhcpReplyOpt.stored, DhcpReplyOpt.size, leOctets32]; omega
      | router ip => simp [DhcpReplyOpt.stored, DhcpReplyOpt.size, leOctets32]; omega
      | dns dns1 dns2 => simp [DhcpReplyOpt.stored, DhcpReplyOpt.size, leOctets32]; omega
      | clientId mac => simp [DhcpReplyOpt.stored, DhcpReplyOpt.size, macOctets]; omega

theorem DhcpBody.length_optBuf (body : DhcpBody) :
    body.optBuf.length = dhcpReplyOptLen body.opts := by
  unfold optBuf stored dhcpReplyOptLen
  simp only [EndMarked.octets, List.length_cons, List.length_append, length_octets_stored,
    List.length_nil]
  omega

/-- `dgram_len` of a reply. -/
theorem toNat_dgramLen {opts : List DhcpReplyOpt} (h : dhcpReplyOptLen opts ≤ 38) :
    (BitVec.ofNat 16 (udpHdrLen + dhcpHdrLen + dhcpReplyOptLen opts)).toNat =
      udpHdrLen + dhcpHdrLen + dhcpReplyOptLen opts := by
  unfold udpHdrLen dhcpHdrLen
  rw [BitVec.toNat_ofNat]
  omega

/-- What is stored as options is what is read. -/
theorem readOpts_withBody {body : DhcpBody} {w : DhcpWire}
    (hlen : w.dgramLen.toNat = udpHdrLen + dhcpHdrLen + dhcpReplyOptLen body.opts) :
    (w.withBody body).readOpts = some body.stored := by
  have hopt : (w.withBody body).opt = fun k => body.optBuf.getD k (w.opt k) := rfl
  have hdgram : (w.withBody body).dgramLen.toNat - udpHdrLen - dhcpHdrLen = body.optBuf.length := by
    rw [body.length_optBuf]
    show w.dgramLen.toNat - udpHdrLen - dhcpHdrLen = _
    omega
  unfold DhcpWire.readOpts
  simp only [hdgram]
  refine EndMarked.read_octets _ ?_ ?_ ?_ ?_
  · intro o ho
    rcases List.mem_cons.mp ho with rfl | ho
    · exact ⟨by simp [dhcpOptMsgType, dhcpOptEnd], by simp⟩
    · obtain ⟨opt, -, rfl⟩ := List.mem_map.mp ho
      exact opt.stored_sound
  · have hle : ∀ os : List EndMarked.Opt, os.length < (EndMarked.octets dhcpOptEnd os).length + 1 := by
      intro os
      induction os with
      | nil => simp
      | cons o rest ih =>
          simp only [EndMarked.octets, List.length_cons, List.length_append]
          omega
    exact hle body.stored
  · exact (Nat.zero_add _).symm
  · intro k hk
    rw [hopt, Nat.zero_add]
    simp [DhcpBody.optBuf, List.getD_eq_getElem?_getD, List.getElem?_eq_getElem hk]

/-! ### A packet that already looks like a reply -/

/-- A walk reads no option that the whole list does not have. -/
theorem mem_of_read {pkt : DhcpPkt} {len fuel : Nat} {os : List EndMarked.Opt} {n off : Nat}
    (hread : EndMarked.read dhcpOptEnd pkt.opt len n off = some os) :
    ∀ o ∈ (pkt.walkFrom fuel off).offs,
      (pkt.opt o, (List.range (pkt.optLen o)).map fun k => pkt.optVal o k) ∈ os := by
  induction fuel generalizing n off os with
  | zero => intro o ho; simp [DhcpPkt.walkFrom, OptWalk.offs] at ho
  | succ fuel ih =>
      intro o ho
      unfold DhcpPkt.walkFrom at ho
      split at ho
      · simp [OptWalk.offs] at ho
      rename_i hgo
      split at ho
      · simp [OptWalk.offs] at ho
      cases n with
      | zero => cases hread
      | succ n =>
          unfold EndMarked.read at hread
          split at hread
          · cases hread
          rw [if_neg fun h => hgo (Or.inl h)] at hread
          simp only at hread
          split at hread
          · cases hread
          obtain ⟨rest, hrest, rfl⟩ := Option.map_eq_some_iff.mp hread
          rcases List.mem_cons.mp ho with rfl | ho
          · exact List.mem_cons_self
          · exact List.mem_cons_of_mem _ (ih hrest o ho)

/-- A message type that the server sends is none that it takes in. -/
theorem decodeMsgType_code (own : Nat) (st : DecodeSt) (msg : DhcpMsg) :
    decodeMsgType own st msg.code = st := by
  cases msg with
  | offer => rfl
  | ack => rfl
  | nak => rfl

theorem decodeWalk_of_codes {w : OptWalk} {st : DecodeSt} {msg : DhcpMsg}
    (hcodes : ∀ off ∈ w.offs, st.ccb.pkt.opt off = dhcpOptMsgType →
      st.ccb.pkt.optVal off 0 = msg.code) (hev : st.event = none) (e : DhcpEvent) :
    (decodeWalk own st w).1 ≠ .event e := by
  induction w with
  | done => simp [decodeWalk, hev, DhcpDecoded.ofEvent]
  | malformed => simp [decodeWalk]
  | opt off rest ih =>
      have hrest := ih fun o ho => hcodes o (List.mem_cons_of_mem off ho)
      unfold decodeWalk
      by_cases hisp : st.ccb.pkt.opt off = dhcpOptIspId
      · rw [if_pos hisp]
        simp
      rw [if_neg hisp]
      by_cases hmsg : st.ccb.pkt.opt off = dhcpOptMsgType
      · rw [if_pos hmsg, hcodes off List.mem_cons_self hmsg, decodeMsgType_code]
        exact hrest
      · rw [if_neg hmsg]
        exact hrest

/-- A packet whose options read as those of a reply is not acted on. -/
theorem dhcpDecode_of_reply {pkt : DhcpPkt} {len n : Nat} {os : List EndMarked.Opt}
    {msg : DhcpMsg} (hread : EndMarked.read dhcpOptEnd pkt.opt len n 0 = some os)
    (hmsg : optValues dhcpOptMsgType os = [[msg.code]]) (ccb : DhcpCcb) (own : Nat)
    (e : DhcpEvent) : (dhcpDecode ccb own pkt).1 ≠ .event e := by
  have hcodes : ∀ off ∈ pkt.walk.offs, pkt.opt off = dhcpOptMsgType →
      pkt.optVal off 0 = msg.code := by
    intro off hoff hty
    have hmem := mem_of_read hread off hoff
    have hval : ((List.range (pkt.optLen off)).map fun k => pkt.optVal off k) ∈
        optValues dhcpOptMsgType os := by
      refine List.mem_map.mpr ⟨_, List.mem_filter.mpr ⟨hmem, ?_⟩, rfl⟩
      exact decide_eq_true hty
    rw [hmsg, List.mem_singleton] at hval
    have hone : pkt.optLen off = 1 := by simpa using congrArg List.length hval
    rw [hone] at hval
    exact (List.cons.inj hval).1
  unfold dhcpDecode
  simp only
  split
  · simp
  split
  · simp
  · exact decodeWalk_of_codes hcodes rfl e

/-! ### What is sent -/

/-- What is known of the packet where its row is found. -/
theorem dhcpdRow_decoded {pkt : DhcpPkt} {row : DhcpRow}
    (h : dhcpdRow hz now ccb pkt = some (c, cur, row)) :
    c.dhcpServerIp = ccb.dhcpServerIp ∧
      ∃ slot e, (dhcpDecode (claimed hz now ccb pkt slot) slot pkt).1 = .event e := by
  unfold dhcpdRow at h
  split at h
  · exact absurd h (by simp)
  split at h
  · exact absurd h (by simp)
  split at h
  · exact absurd h (by simp)
  rename_i slot hslot
  split at h
  · exact absurd h (by simp)
  · exact absurd h (by simp)
  rename_i e c₀ cur₀ hdec
  obtain ⟨row₀, -, heq⟩ := Option.map_eq_some_iff.mp h
  obtain ⟨rfl, -, -⟩ : c₀.modUser cur₀ ({ · with state := row₀.nextState }) = c ∧ cur₀ = cur ∧
      row₀ = row := by
    simpa using heq
  have hdec' : dhcpDecode (claimed hz now ccb pkt slot) slot pkt = (.event e, c₀, cur₀) := hdec
  refine ⟨?_, slot, e, congrArg Prod.fst hdec'⟩
  obtain ⟨ev, hkept, -⟩ := dhcpDecode_decoding (claimed hz now ccb pkt slot) pkt
    (isSlot_of_pickSlot hslot).1
  rw [hdec'] at hkept
  exact hkept.kept.serverIp

/-- What leaves for a packet whose row starts with a handler that builds nothing: the packet. -/
theorem fastrgLoopDhcpLan_of_quiet (lanMac : BitVec 48) {recv : DhcpRecv} {row : DhcpRow} {h : DhcpHandler}
    {rest : List DhcpHandler} (hrow : dhcpdRow hz now ccb recv.frame.pkt = some (c, cur, row))
    (hhdl : row.hdl = h :: rest) (hrest : ∀ h' ∈ rest, h'.opts c = none)
    (hdone : h.completes c cur = true) (hopts : h.opts c = none) :
    ∃ hdr, fastrgLoopDhcpLan hz now lanMac ccb recv = some (recv.wire hdr) := by
  obtain ⟨-, c'', reply, -, hreply, hdhcpd⟩ := dhcpd_of_completes hrow hhdl hrest hdone
  unfold DhcpHandler.Replies at hreply
  rw [hopts] at hreply
  have hreply : reply = none := hreply
  subst hreply
  refine ⟨c''.pkt.hdr, ?_⟩
  unfold fastrgLoopDhcpLan
  rw [if_neg (len_of_dhcpdRow hrow), hdhcpd]

/-- What leaves for a packet whose row starts with a handler that builds a reply. -/
theorem fastrgLoopDhcpLan_of_reply (lanMac : BitVec 48) {recv : DhcpRecv} {row : DhcpRow} {h : DhcpHandler}
    {rest : List DhcpHandler} {opts : List DhcpReplyOpt}
    (hrow : dhcpdRow hz now ccb recv.frame.pkt = some (c, cur, row))
    (hhdl : row.hdl = h :: rest) (hrest : ∀ h' ∈ rest, h'.opts c = none)
    (hdone : h.completes c cur = true) (hopts : h.opts c = some opts) :
    ∃ hdr c' reply, h.run hz now c cur = some ⟨.success, c', some reply⟩ ∧
      reply.body.map (·.opts) =
        (if (c.user cur).dhcpHdr = some c.pkt.buf then some opts else none) ∧
      fastrgLoopDhcpLan hz now lanMac ccb recv =
        some ((recv.wire hdr).withReply lanMac reply opts) := by
  obtain ⟨c', c'', reply, hrun, hreply, hdhcpd⟩ := dhcpd_of_completes hrow hhdl hrest hdone
  unfold DhcpHandler.Replies at hreply
  rw [hopts] at hreply
  obtain ⟨r, rfl, hbody⟩ := hreply
  refine ⟨c''.pkt.hdr, c', r, hrun, hbody, ?_⟩
  have hfound : dhcpdOpts hz now ccb recv.frame.pkt = some opts := by
    unfold dhcpdOpts
    rw [hrow]
    simp [hhdl, hopts]
  unfold fastrgLoopDhcpLan
  rw [if_neg (len_of_dhcpdRow hrow), hdhcpd]
  simp only [hfound, Option.getD_some]

/-- A packet that gets to no row is not sent to the LAN. -/
theorem fastrgLoopDhcpLan_of_no_row (lanMac : BitVec 48) {recv : DhcpRecv}
    (hrow : dhcpdRow hz now ccb recv.frame.pkt = none) (w : DhcpWire) :
    fastrgLoopDhcpLan hz now lanMac ccb recv ≠ some w := by
  intro hw
  unfold fastrgLoopDhcpLan at hw
  split at hw
  · exact absurd hw (by simp)
  split at hw
  · exact absurd hw (by simp)
  · exact absurd hw (by simp)
  · exact absurd hw (by simp)
  · rename_i hdhcpd
    exact absurd rfl (dhcpd_of_no_row hrow hdhcpd)
  · rename_i hdhcpd
    exact absurd rfl (dhcpd_of_no_row hrow hdhcpd)

/-- Nor is one whose handler does not come to its end. -/
theorem completes_of_fastrgLoopDhcpLan {recv : DhcpRecv} {row : DhcpRow} {h : DhcpHandler}
    {rest : List DhcpHandler} {w : DhcpWire}
    (hrow : dhcpdRow hz now ccb recv.frame.pkt = some (c, cur, row)) (hhdl : row.hdl = h :: rest)
    (hw : fastrgLoopDhcpLan hz now lanMac ccb recv = some w) : h.completes c cur = true := by
  by_contra hnot
  unfold fastrgLoopDhcpLan at hw
  rw [if_neg (len_of_dhcpdRow hrow)] at hw
  rcases dhcpd_of_not_completes hrow hhdl (Bool.eq_false_of_not_eq_true hnot) with
    hdhcpd | ⟨c', hdhcpd⟩
  · rw [hdhcpd] at hw
    cases hw
  · rw [hdhcpd] at hw
    cases hw

/-- What a reply says its lengths are. -/
theorem ipTotal_withReply (reply : DhcpReply) (opts : List DhcpReplyOpt) (w : DhcpWire) :
    (w.withReply lanMac reply opts).ipTotal = dhcpReplyIpTotal opts := by
  unfold DhcpWire.withReply
  cases reply.body with
  | none => rfl
  | some body => rfl

theorem dgramLen_withReply (reply : DhcpReply) (opts : List DhcpReplyOpt) (w : DhcpWire) :
    (w.withReply lanMac reply opts).dgramLen =
      BitVec.ofNat 16 (udpHdrLen + dhcpHdrLen + dhcpReplyOptLen opts) := by
  unfold DhcpWire.withReply
  cases reply.body with
  | none => rfl
  | some body => rfl

/-- A reply keeps the length that the IP header gives itself. -/
theorem ihl_withReply (reply : DhcpReply) (opts : List DhcpReplyOpt) (w : DhcpWire) :
    (w.withReply lanMac reply opts).ihl = w.ihl := by
  unfold DhcpWire.withReply
  cases reply.body with
  | none => rfl
  | some body => rfl

/-- It is the frame that is counted by `fastrgLoopDhcp`. -/
theorem fastrgLoopDhcp_of_lan {recv : DhcpRecv} {w : DhcpWire}
    (hw : fastrgLoopDhcpLan hz now lanMac ccb recv = some w) :
    ∃ t ∈ fastrgLoopDhcp hz now ccb recv.frame, t.port = .lan ∧ t.ipTotal = w.ipTotal := by
  cases hrow : dhcpdRow hz now ccb recv.frame.pkt with
  | none => exact absurd hw (fastrgLoopDhcpLan_of_no_row lanMac hrow w)
  | some r =>
      obtain ⟨c, cur, row⟩ := r
      obtain ⟨h, rest, hhdl, hrest⟩ := dhcpFsmTbl_hdl c (dhcpdRow_some hrow).1
      have hdone := completes_of_fastrgLoopDhcpLan hrow hhdl hw
      rw [fastrgLoopDhcp_of_row hrow hhdl hrest, if_pos hdone]
      refine ⟨_, rfl, rfl, ?_⟩
      show (h.rewrites c cur ⟨recv.frame.ipTotal, []⟩).ipTotal = w.ipTotal
      unfold DhcpHandler.rewrites
      cases hopts : h.opts c with
      | none =>
          obtain ⟨hdr, hw'⟩ := fastrgLoopDhcpLan_of_quiet lanMac hrow hhdl hrest hdone hopts
          rw [hw'] at hw
          obtain rfl := Option.some.inj hw
          rfl
      | some opts =>
          obtain ⟨hdr, c', reply, -, -, hw'⟩ :=
            fastrgLoopDhcpLan_of_reply lanMac hrow hhdl hrest hdone hopts
          rw [hw'] at hw
          obtain rfl := Option.some.inj hw
          exact (ipTotal_withReply reply opts _).symm

/-! ### Which frames are replies -/

/-- The headers of a reply count from an IP header without options. -/
theorem withReply_lengths {reply : DhcpReply} {opts : List DhcpReplyOpt} (w : DhcpWire)
    (hsize : dhcpReplyOptLen opts ≤ 38) :
    (w.withReply lanMac reply opts).ipTotal.toNat =
      20 + (w.withReply lanMac reply opts).dgramLen.toNat := by
  have htotal := dhcpReplyIpTotal_eq hsize
  have hdgram := toNat_dgramLen hsize
  rw [ipTotal_withReply, dgramLen_withReply, hdgram]
  simp only [dhcpOptOffset, ctrlL2Len, rteIpv4HdrSize] at htotal
  omega

/-- A reply that is built in the packet's own buffer is a reply to the packet. -/
theorem repliesTo_of_inPlace {recv : DhcpRecv} {h : DhcpHandler} {opts : List DhcpReplyOpt}
    {reply : DhcpReply} {body : DhcpBody} (hdr : DhcpHdr) (hopts : h.opts ccb = some opts)
    (hbody : reply.body = some body) (hbodyOpts : body.opts = opts) (hplain : recv.ihl = 5) :
    ((recv.wire hdr).withReply lanMac reply opts).RepliesTo recv lanMac ccb.dhcpServerIp
      body.msg := by
  have hsize := dhcpReplyOptLen_le hopts
  have hlengths : ((recv.wire hdr).withReply lanMac reply opts).ipTotal.toNat = _ :=
    withReply_lengths (recv.wire hdr) hsize
  have hw : (recv.wire hdr).withReply lanMac reply opts =
      ((recv.wire hdr).withHeaders lanMac reply opts).withBody body := by
    unfold DhcpWire.withReply
    rw [hbody]
  rw [hw] at hlengths ⊢
  refine ⟨rfl, rfl, rfl, rfl, rfl, ⟨body.stored, ?_, ?_, ?_⟩, ?_⟩
  · apply readOpts_withBody
    rw [hbodyOpts]
    exact toNat_dgramLen hsize
  · have htypes := (h.opts_stored hopts).1
    rw [← hbodyOpts] at htypes
    simp only [DhcpBody.stored, optValues, List.filter_cons] at htypes ⊢
    simp [htypes]
  · have hids := (h.opts_stored hopts).2
    rw [← hbodyOpts] at hids
    simp only [DhcpBody.stored, optValues, List.filter_cons] at hids ⊢
    rw [if_neg (by simp [dhcpOptMsgType, dhcpOptServerId])]
    exact hids
  · rw [hlengths]
    have hihl : (((recv.wire hdr).withHeaders lanMac reply opts).withBody body).ihl = 5 := hplain
    rw [hihl]
    rfl

/-- A reply that is built elsewhere leaves the client's own options in the frame. -/
theorem not_repliesTo_of_stale {recv : DhcpRecv} {opts : List DhcpReplyOpt} {reply : DhcpReply}
    {msg : DhcpMsg} {serverIp : BitVec 32} {row : DhcpRow} (hdr : DhcpHdr)
    (hrow : dhcpdRow hz now ccb recv.frame.pkt = some (c, cur, row))
    (hbody : reply.body = none) :
    ¬ ((recv.wire hdr).withReply lanMac reply opts).RepliesTo recv lanMac serverIp msg := by
  intro hreply
  obtain ⟨os, hread, hmsg, -⟩ := hreply.opts
  have hopt : ((recv.wire hdr).withReply lanMac reply opts).opt = recv.frame.pkt.opt := by
    unfold DhcpWire.withReply
    rw [hbody]
    rfl
  unfold DhcpWire.readOpts at hread
  simp only [hopt] at hread
  obtain ⟨-, slot, e, hevent⟩ := dhcpdRow_decoded hrow
  exact dhcpDecode_of_reply hread hmsg _ slot e hevent

/--
**The DHCP server sends a reply to the packet at hand exactly when the row it gets to builds one
in the packet's own buffer and the packet's IP header has no options.**

A RELEASE and a DECLINE that are accepted get to rows that build nothing, and are sent back to
the LAN as they came.
-/
theorem onlyReplies_iff (hz now : Nat) (lanMac : BitVec 48) (ccb : DhcpCcb) (recv : DhcpRecv) :
    OnlyReplies hz now lanMac ccb recv ↔ recv.Answered hz now ccb := by
  refine ⟨?_, ?_⟩
  · intro honly c cur row hrow h hhead hdone
    obtain ⟨h', rest, hhdl, hrest⟩ := dhcpFsmTbl_hdl c (dhcpdRow_some hrow).1
    rw [hhdl] at hhead
    obtain rfl := Option.mem_some_iff.mp hhead
    have hlast : ∀ w ∈ fastrgLoopDhcpLan hz now lanMac ccb recv,
        ∃ msg, h'.msg = some msg ∧ w.RepliesTo recv lanMac ccb.dhcpServerIp msg := by
      intro w hw
      obtain ⟨c₁, cur₁, row₁, hrow₁, h₁, hh₁, msg, hmsg, hreply⟩ := honly w hw
      rw [hrow] at hrow₁
      obtain ⟨rfl, rfl, rfl⟩ : c = c₁ ∧ cur = cur₁ ∧ row = row₁ := by simpa using hrow₁
      rw [hhdl] at hh₁
      obtain rfl := Option.mem_some_iff.mp hh₁
      exact ⟨msg, hmsg, hreply⟩
    cases hopts : h'.opts c with
    | none =>
        -- the packet itself would have to be the reply of a handler that builds none
        obtain ⟨hdr, hw⟩ := fastrgLoopDhcpLan_of_quiet lanMac hrow hhdl hrest hdone hopts
        obtain ⟨msg, hmsg, -⟩ := hlast _ hw
        obtain ⟨opts, hsome⟩ := DhcpHandler.opts_of_msg hmsg c
        rw [hopts] at hsome
        cases hsome
    | some opts =>
        obtain ⟨hdr, c', reply, hrun, hbody, hw⟩ :=
          fastrgLoopDhcpLan_of_reply lanMac hrow hhdl hrest hdone hopts
        obtain ⟨msg, hmsg, hreply⟩ := hlast _ hw
        refine ⟨by rw [hmsg]; rfl, ?_, ?_⟩
        · by_contra hstale
          rw [if_neg hstale] at hbody
          exact not_repliesTo_of_stale hdr hrow (Option.map_eq_none_iff.mp hbody) hreply
        · have hlengths := hreply.lengths
          rw [withReply_lengths _ (dhcpReplyOptLen_le hopts)] at hlengths
          rw [ihl_withReply] at hlengths
          have hfive : recv.ihl.toNat = 5 := by
            have hwire : (recv.wire hdr).ihl = recv.ihl := rfl
            rw [hwire] at hlengths
            omega
          apply BitVec.eq_of_toNat_eq
          exact hfive
  · intro hans w hw
    cases hrow : dhcpdRow hz now ccb recv.frame.pkt with
    | none => exact absurd hw (fastrgLoopDhcpLan_of_no_row lanMac hrow w)
    | some r =>
        obtain ⟨c, cur, row⟩ := r
        obtain ⟨h, rest, hhdl, hrest⟩ := dhcpFsmTbl_hdl c (dhcpdRow_some hrow).1
        have hhead : h ∈ row.hdl.head? := by
          rw [hhdl]
          exact rfl
        have hdone := completes_of_fastrgLoopDhcpLan hrow hhdl hw
        obtain ⟨hbuilds, hin, hplain⟩ := hans c cur row hrow h hhead hdone
        obtain ⟨msg, hmsg⟩ := Option.isSome_iff_exists.mp hbuilds
        obtain ⟨opts, hopts⟩ := DhcpHandler.opts_of_msg hmsg c
        obtain ⟨hdr, c', reply, hrun, hbody, hw'⟩ :=
          fastrgLoopDhcpLan_of_reply lanMac hrow hhdl hrest hdone hopts
        rw [if_pos hin] at hbody
        obtain ⟨body, hbody, hbodyOpts⟩ := Option.map_eq_some_iff.mp hbody
        refine ⟨c, cur, row, rfl, h, hhead, body.msg, DhcpHandler.msg_of_run hrun hbody, ?_⟩
        rw [hw'] at hw
        obtain rfl := Option.some.inj hw
        rw [← (dhcpdRow_decoded hrow).1]
        exact repliesTo_of_inPlace hdr hopts hbody hbodyOpts hplain

/-- A packet of a client in a frame of its own, with an IP header without options. -/
def clientRecv (pkt : DhcpPkt) (hfits : ctrlL2Len + rteIpv4HdrSize + pkt.room ≤ 2048) :
    DhcpRecv where
  frame :=
    { pkt := pkt
      len := ctrlL2Len + rteIpv4HdrSize + pkt.room
      ipTotal := BitVec.ofNat 16 (rteIpv4HdrSize + pkt.room)
      room_eq := by omega
      fits := hfits }
  ethDst := broadcastMac
  ihl := 5
  ipSrc := 0
  udpSrc := dhcpClientPort
  udpDst := dhcpServerPort
  msgType := 1
  transactionId := 7
  nextServerIp := 0
  macAddr := 0
  serverName := []
  fileName := []

/-- A client with a lease gives it up, and is sent its own RELEASE. -/
theorem not_onlyReplies :
    ¬ ∀ (hz : Nat) (ls : List DhcpLabel) (s : DhcpCcb), DhcpRun hz (fun _ _ => True) ls s →
      ∀ (now : Nat) (lanMac : BitVec 48) (recv : DhcpRecv), OnlyReplies hz now lanMac s recv := by
  intro hall
  let pkt := clientPkt 1 0 [53, 1, 7, 255]
  have hrow : (dhcpdRow 1 2 (servedTo [clientPkt 1 0 (askFor 2)]) pkt).map (·.2.2.hdl) =
      some [.release] := by decide
  have hsent : (fastrgLoopDhcpLan 1 2 0 (servedTo [clientPkt 1 0 (askFor 2)])
      (clientRecv pkt (by decide))).isSome = true := by decide
  obtain ⟨w, hw⟩ := Option.isSome_iff_exists.mp hsent
  obtain ⟨c, cur, row, hrow', h, hhead, msg, hmsg, -⟩ :=
    hall 1 _ _ (run_servedTo [clientPkt 1 0 (askFor 2)]) 2 0 _ w hw
  have hhdl : row.hdl = [.release] := by
    have hsome : some row.hdl = some [.release] := by
      rw [← hrow]
      exact (congrArg (Option.map (·.2.2.hdl)) hrow').symm
    exact Option.some.inj hsome
  rw [hhdl] at hhead
  obtain rfl := Option.mem_some_iff.mp hhead
  cases hmsg

end FastRG
