import MctpEmu.BusOwner.Answering
import MctpEmu.Deployment.Parties

/-!
# What the calls of a network get from a bus owner

The bus owner answers what the network transmits, and the calls of the network get its answers. The
network answers nothing, so that the discovery of a bus owner beside it does not come to an end.

## Main definitions

* `Network.SameFlow`: two packets that the network cannot tell apart in a response.
* `Network.Completed`: a call has the packet of a datagram that was handled.

## Main results

* `MctpEndpointContext.fst_handleRequest`: what is answered does not depend on the endpoint.
* `Network.completed_run`: what a call has was handled, and answers its packet.
* `Deployment.returns_reply`: a call returns with the reply to a packet of its flow.
* `Deployment.never_answered`: the loop of the bus owner gets no response.
-/

namespace MctpEmu

open StepSystem SimpleNetwork

/-! ### Replies -/

namespace MctpEndpointContext

/-- The answer to a packet is the same in every state of the endpoint. -/
theorem fst_handleRequest (ctx ctx' : MctpEndpointContext) (packet : Bytes) :
    (ctx.handleRequest packet).1 = (ctx'.handleRequest packet).1 := by
  cases arm packet with
  | short hlt => rw [handleRequest_of_lt ctx hlt, handleRequest_of_lt ctx' hlt]
  | setEndpointID => simp only [handleRequest_setEndpointID]
  | setEndpointIDShort b₀ b₁ b₂ b₃ b₄ b₅ hlt =>
    simp only [handleRequest_setEndpointID_of_lt _ _ _ _ _ _ _ hlt]
  | getEndpointID => simp only [handleRequest_getEndpointID]
  | discoveryNotify => simp only [handleRequest_discoveryNotify]
  | getRoutingTableEntries => simp only [handleRequest_getRoutingTableEntries]
  | getRoutingTableEntriesShort b₀ b₁ b₂ b₃ b₄ b₅ hlt =>
    simp only [handleRequest_getRoutingTableEntries_of_lt _ _ _ _ _ _ _ hlt]
  | unsupported b₀ b₁ b₂ b₃ b₄ b₅ rest hle hother =>
    simp only [handleRequest_unsupported _ _ _ _ _ _ _ _ hle hother]
  | unknown b₀ b₁ b₂ b₃ b₄ b₅ rest hgt =>
    simp only [handleRequest_unknown _ _ _ _ _ _ _ _ hgt]

/-- The reply to the packet of a client has the tag of the packet, and its addresses swapped. -/
theorem createTag_reply {ctx : MctpEndpointContext} {client : Client} {address : UInt8}
    {payload reply : Bytes}
    (h : (ctx.handleRequest (packet client address payload)).1 = .ok reply) (rest : Bytes) :
    createTag (reply ++ rest) = some ⟨client.address, address, client.tag % 8, false⟩ := by
  obtain ⟨b₀, b₁, b₂, b₃, b₄, b₅, b₆, tail, body, hbytes, -, rfl⟩ := handleRequest_eq_ok h
  have hhdr : TransportHeader.new client.address address client.tag (some true) (some true)
      (some true) = ⟨#v[b₀], b₁, b₂, #v[b₃]⟩ := by
    have hread := trySized_encode_append (TransportHeader.new client.address address client.tag
      (some true) (some true) (some true)) payload
    have hread' := trySized_encode_append (⟨#v[b₀], b₁, b₂, #v[b₃]⟩ : TransportHeader)
      (b₄ :: b₅ :: b₆ :: tail)
    change trySized TransportHeader (packet client address payload) = _ at hread
    rw [hbytes] at hread
    exact Except.ok.inj (hread.symm.trans hread')
  rw [← Network.createTag_createResponse client address, hhdr, TransportHeader.createResponse_mk]
  rfl

end MctpEndpointContext

namespace Network

/-- The packet of a client, with something behind it. -/
theorem packet_append (client : Client) (address : UInt8) (payload rest : Bytes) :
    packet client address payload ++ rest = packet client address (payload ++ rest) :=
  List.append_assoc _ _ _

/-! ### What a call gets -/

/-- Two packets go to one endpoint with one tag. -/
def SameFlow (packet packet' : Bytes) : Prop :=
  ∃ tag tag', createTag packet = some tag ∧ createTag packet' = some tag' ∧
    tag.destEid = tag'.destEid ∧ tag.msgTag = tag'.msgTag

/-- The call of a client has the packet of a datagram that was handled, and this packet answers the
one of the call. -/
def Completed (s : Polling) (packet : Bytes) (reply : Reply) : Prop :=
  IsPacket packet ∧ ∃ datagram ∈ s.handled,
    (∃ addr, reply.response = .receive addr (datagram.drop 4)) ∧
      BusOwner.Answers packet (datagram.drop 4)

section Completion

variable {pec : Bytes → UInt8} {binding : SmbusNetDevBinding}

/-- A reply after a step was there before, or it is the packet of the datagram of this step. -/
theorem completed_of_net_step {s s' : State} {e : Event} (hs : WellFormed s)
    (h : step pec s e = some s') {i : ℕ} {call : Call} {reply : Reply}
    (hcall : s'.calls[i]? = some call) (hreply : call.reply = some reply) :
    (∃ c, s.calls[i]? = some c ∧ c.reply = some reply ∧ c.packet = call.packet) ∨
      ∃ answers id buf addr, e = .receive answers id buf ∧ IsPacket call.packet ∧
        reply.response = .receive addr (buf.drop 4) ∧
          BusOwner.Answers call.packet (buf.drop 4) := by
  cases transition_of_step hs.poisoned_of_running h with
  | register payload address network phyAddr hclient hpoison =>
    rcases KeyedFifo.getElem?_concat_eq_some.mp hcall with hc | ⟨rfl, rfl⟩
    · exact .inl ⟨call, hc, hreply, rfl⟩
    · cases hreply
  | refuse payload hrefused hstage hnone =>
    rcases KeyedFifo.getElem?_concat_eq_some.mp hcall with hc | ⟨rfl, rfl⟩
    · exact .inl ⟨call, hc, hreply, rfl⟩
    · rw [hnone] at hreply
      cases hreply
  | @transmit i c sends hold | @abort i c sends hold | @resume i c reply' hold
  | @drop i c hold =>
    rcases (getElem?_set_eq_some hold _).mp hcall with ⟨rfl, rfl⟩ | ⟨-, hc⟩
    · exact .inl ⟨c, hold, hreply, rfl⟩
    · exact .inl ⟨call, hc, hreply, rfl⟩
  | @complete answers id buf recvTag flow hrunning hfirst htag hfind hopen =>
    obtain ⟨c, client, address, payload, hold, -, hflow, hpacket⟩ :=
      hs.flow flow (List.mem_of_find?_eq_some hfind)
    rcases (getElem?_modify_eq_some hold _).mp hcall with ⟨rfl, rfl⟩ | ⟨-, hc⟩
    · obtain rfl := Option.some.inj hreply
      obtain ⟨hdest, hmsgTag, howner⟩ := matchesFlow_eq_true_iff.mp (List.find?_some hfind)
      refine .inr ⟨answers, id, buf, _, rfl, ⟨client, address, payload, hpacket⟩, rfl, flow.1,
        recvTag, ?_, htag, hmsgTag.symm, ?_, hdest.symm⟩
      · rw [hflow, ← createTag_packet client address payload, ← hpacket]
      · rw [howner]
        exact (Bool.not_ne_self recvTag.tagOwner).symm
    · exact .inl ⟨call, hc, hreply, rfl⟩
  | _ => exact .inl ⟨call, hcall, hreply, rfl⟩

/-- In every run what a call has was handled, and answers its packet. -/
theorem completed_run {C : Polling → Polling.Event → Prop} {es : List Polling.Event} {s : Polling}
    (h : Run (Polling.step pec) C (.init binding) es s) :
    ∀ (i : ℕ) (call : Call) (reply : Reply), s.net.calls[i]? = some call →
      call.reply = some reply → Completed s call.packet reply := by
  induction h with
  | nil => exact fun i call reply hcall => absurd hcall not_call_init
  | @snoc es s s' e hrun hstep _ ih =>
    intro i call reply hcall hreply
    have hs := (Polling.consistent_run hrun).net
    have hkeep {packet : Bytes} (hcompleted : Completed s packet reply)
        (hhandled : s.handled ⊆ s'.handled) : Completed s' packet reply := by
      obtain ⟨hpacket, datagram, hmem, hrest⟩ := hcompleted
      exact ⟨hpacket, datagram, hhandled hmem, hrest⟩
    cases Polling.transition_of_step hstep with
    | call he hnet =>
      rcases completed_of_net_step hs hnet hcall hreply with
        ⟨c, hc, hold, hsame⟩ | ⟨_, _, _, _, rfl, -⟩
      · exact hsame ▸ hkeep (ih i c reply hc hold) (List.Subset.refl _)
      · cases he
    | @handle answers cmd _ _ _ hchannel hqueue hnet =>
      rcases completed_of_net_step hs hnet hcall hreply with
        ⟨c, hc, hold, hsame⟩ | ⟨_, _, _, addr, hevent, hpacket, hresponse, hanswers⟩
      · exact hsame ▸ hkeep (ih i c reply hc hold) (List.subset_append_left _ _)
      · obtain ⟨-, -, rfl⟩ := Event.receive.inj hevent
        exact ⟨hpacket, cmd.buf, List.mem_append_right _ (List.mem_singleton_self _),
          ⟨addr, hresponse⟩, hanswers⟩
    | _ => exact hkeep (ih i call reply hcall hreply) (List.Subset.refl _)

end Completion

end Network

/-! ### The deployment -/

namespace Deployment

open BusOwner (Program FrameOf)

section Runs

variable {cfg : TransportConfig} {pingEid : UInt8} {ctx : MctpEndpointContext}
  {binding : SmbusNetDevBinding}
  {C : Program × Network.Wired → Program.Event ⊕ Network.Polling.Event → Prop}
  {es : List (Program.Event ⊕ Network.Polling.Event)} {d : Program × Network.Wired}

/-- The transport task takes packets of the calls, each with its packet error code. -/
theorem exists_call_of_handled (h : Run (step cfg pingEid) C (init ctx binding) es d)
    {buf : Bytes} (hbuf : .receiveMsg buf ∈ d.1.handled) :
    ∃ (i : ℕ) (call : Network.Call), d.2.polling.net.calls[i]? = some call ∧
      Network.IsPacket call.packet ∧ buf.drop 4 = call.packet ++ [cfg.pec call.packet] := by
  obtain ⟨frame, hframe, rfl⟩ := handled_owner h hbuf
  obtain ⟨i, call, hdr, hcall, hpacket, hlt, hhdr, rfl⟩ :=
    (Network.Wired.carries_run (network_run h)).2.2 frame hframe
  refine ⟨i, call, hcall, hpacket, ?_⟩
  -- The frame is smaller than the buffer of the receive task.
  rw [List.take_of_length_le, List.drop_left' hhdr]
  simp only [List.length_append, List.length_cons, List.length_nil, hhdr]
  omega

/-- What `callback_handler` takes has the tag owner set, or it is the frame of the reply to the
packet of a call. -/
theorem exists_reply_of_handled (h : Run (step cfg pingEid) C (init ctx binding) es d)
    {buf : Bytes} (hbuf : buf ∈ d.2.polling.handled) :
    (∃ tag, createTag (buf.drop 4) = some tag ∧ tag.tagOwner = true) ∨
      ∃ (i : ℕ) (call : Network.Call) (reply : Bytes), d.2.polling.net.calls[i]? = some call ∧
        Network.IsPacket call.packet ∧
        (ctx.handleRequest (call.packet ++ [cfg.pec call.packet])).1 = .ok reply ∧
        sendFrame cfg.overflowChecks cfg.pec cfg.destAddr7bit cfg.srcAddr7bit reply = some buf ∧
        buf ∈ d.1.sent := by
  have howner := owner_run h
  obtain ⟨frame, hframe, hcut⟩ := handled_network h hbuf
  obtain ⟨command, hcommand, hof⟩ := Program.exists_frameOf howner hframe
  -- Frames are smaller than the buffer of a task.
  have hwhole {packet : Bytes} (hsize : IsPacketSize packet.length)
      (hsend : sendFrame cfg.overflowChecks cfg.pec cfg.destAddr7bit cfg.srcAddr7bit packet =
        some frame) : buf = frame := by
    rw [hcut, List.take_of_length_le]
    rw [(BusOwner.exists_eq_of_sendFrame hsend).1]
    have hle := hsize.2
    omega
  cases hof with
  | @request packet _ resp hsend =>
    obtain ⟨⟨client, address, payload, rfl⟩, hsize⟩ :=
      Program.isPacket_of_mem_handled howner hcommand
    obtain ⟨-, b, hdrop⟩ := BusOwner.exists_eq_of_sendFrame hsend
    rw [hwhole hsize hsend, hdrop, Network.packet_append]
    exact .inl ⟨_, createTag_packet .., rfl⟩
  | @reply datagram reply _ ctx' hreply hsend =>
    obtain ⟨i, call, hcall, hpacket, hdrop⟩ := exists_call_of_handled h hcommand
    rw [hdrop, MctpEndpointContext.fst_handleRequest ctx' ctx] at hreply
    have hsize := MctpEndpointContext.isPacketSize_handleRequest hreply
    rw [hwhole hsize hsend]
    exact .inr ⟨i, call, reply, hcall, hpacket, hreply, hsend, hframe⟩

/-- A call of the network that returns has the packet of a frame that the bus owner has sent: its
reply to the packet of a call with the same destination and the same tag, as the responder is given
it. -/
theorem returns_reply (h : Run (step cfg pingEid) C (init ctx binding) es d) {i : ℕ}
    {call : Network.Call} {addr : SocketAddress} {buf : Bytes}
    (hcall : d.2.polling.net.calls[i]? = some call) (hstage : call.stage = .returned addr buf) :
    ∃ (j : ℕ) (other : Network.Call) (reply frame : Bytes),
      d.2.polling.net.calls[j]? = some other ∧ Network.SameFlow other.packet call.packet ∧
      (ctx.handleRequest (other.packet ++ [cfg.pec other.packet])).1 = .ok reply ∧
      sendFrame cfg.overflowChecks cfg.pec cfg.destAddr7bit cfg.srcAddr7bit reply = some frame ∧
      frame ∈ d.1.sent ∧ buf = frame.drop 4 := by
  have hnetwork := Network.Wired.run_polling (network_run h)
  have hwf := (Network.Polling.consistent_run hnetwork).net
  obtain ⟨r, hr, hresponse⟩ := hwf.returned i call addr buf hcall hstage
  obtain ⟨⟨client, address, payload, hpacket⟩, datagram, hmem, ⟨addr', haddr⟩, tag, recvTag, htag,
    hrecvTag, hmsgTag, howner, hsource⟩ := Network.completed_run hnetwork i call r hcall hr
  obtain ⟨-, rfl⟩ := ClientCallbackMsg.receive.inj (hresponse.symm.trans haddr)
  obtain rfl : flowTag client address = tag := by
    rw [hpacket, createTag_packet] at htag
    exact Option.some.inj htag
  rcases exists_reply_of_handled h hmem with ⟨tag', htag', howner'⟩ |
    ⟨j, other, reply, hother, ⟨client', address', payload', hpacket'⟩, hreply, hsend, hsent⟩
  · -- A frame with the tag owner set completes no call.
    obtain rfl := Option.some.inj (hrecvTag.symm.trans htag')
    exact absurd howner' howner
  · obtain ⟨-, b, hdrop⟩ := BusOwner.exists_eq_of_sendFrame hsend
    rw [hdrop] at hrecvTag
    have hreply' := hreply
    rw [hpacket', Network.packet_append] at hreply'
    obtain rfl := Option.some.inj
      (hrecvTag.symm.trans (MctpEndpointContext.createTag_reply hreply' [b]))
    have hsame : Network.SameFlow other.packet call.packet := by
      refine ⟨_, _, hpacket' ▸ createTag_packet client' address' payload',
        hpacket ▸ createTag_packet client address payload, hsource, ?_⟩
      exact (Network.lowBits_three client'.tag).trans hmsgTag
    exact ⟨j, other, reply, datagram, hother, hsame, hreply, hsend, hsent, rfl⟩

/-- **The network answers nothing.** Beside a network the loop of the bus owner gets no response,
and makes at most one request. -/
theorem never_answered (h : Run (step cfg pingEid) C (init ctx binding) es d) :
    d.1.loop.history = [] ∨ ∃ packet, d.1.loop.history = [.request packet] := by
  have howner := owner_run h
  obtain ⟨⟨exchanges, unanswered, hanswered⟩, -⟩ := Program.delivers_run howner
  have hconverses := hanswered.converses
  rw [BusOwner.Converses] at hconverses
  cases exchanges with
  | nil =>
    rw [List.flatMap_nil, List.nil_append] at hconverses
    cases unanswered with
    | none => exact .inl hconverses
    | some packet => exact .inr ⟨packet, hconverses⟩
  | cons x rest =>
    -- The first response has the tag owner set, as its request has.
    exfalso
    have hrequest : .request x.1 ∈ d.1.loop.history := by
      rw [hconverses]
      exact List.mem_append_left _ (List.mem_append_left _ List.mem_cons_self)
    obtain ⟨q, ctx', hsend⟩ := Program.sendsRequests_run howner x.1 hrequest
    obtain ⟨payload, hpacket, -⟩ := BusOwner.Session.exists_send_eq_packet q ctx'
    have hresponse : x.2 ∈ (Program.datagrams d.1.handled).map (List.drop 4) :=
      hanswered.sublist.subset (List.mem_append_left _ List.mem_cons_self)
    obtain ⟨buf, hbuf, hdrop⟩ := List.mem_map.mp hresponse
    obtain ⟨command, hcommand, hdatagram⟩ := List.mem_filterMap.mp hbuf
    cases command with
    | sendMsg => cases hdatagram
    | receiveMsg datagram =>
      obtain rfl := Option.some.inj hdatagram
      obtain ⟨i, call, -, ⟨client, address, payload', hcall⟩, hcarries⟩ :=
        exists_call_of_handled h hcommand
      obtain ⟨tag, recvTag, htag, hrecvTag, -, howner', -⟩ :=
        hanswered.answers x List.mem_cons_self
      rw [hsend, hpacket, createTag_packet] at htag
      rw [← hdrop, hcarries, hcall, Network.packet_append, createTag_packet] at hrecvTag
      obtain rfl := Option.some.inj htag
      obtain rfl := Option.some.inj hrecvTag
      exact howner' rfl

end Runs

/-! ### A sample -/

/-- A call notifies the bus owner, which replies to it and begins a discovery. -/
def sampleExchange : List (Program.Event ⊕ Network.Polling.Event) :=
  [.inr (.add none), .inr (.call .socket), .inr (.call (.bind 0 0x00 0 0)),
    .inr (.call (.sendto 0 [0x00, 0x80, 0x0D] (.extended 0x00 1 1 0x25))),
    .inr (.call (.transmit 0 (.ok 12, .ok 12))),
    .inl (.arrive [0x4A, 0x0F, 0x07, 0x21, 0x01, 0x00, 0x00, 0xC8, 0x00, 0x80, 0x0D, 0x50]),
    .inl .command, .inl (.transmit (.ok 13)),
    .inr (.arrive 0
      [0x60, 0x0F, 0x09, 0x21, 0x01, 0x00, 0x00, 0xC0, 0x00, 0x00, 0x0D, 0x00, 0xE1]),
    .inr (.handOver 0), .inr (.handle (some 0)), .inr (.call (.resume 0)), .inl .turn]

/-- The end of the sample. -/
theorem run_sampleExchange : ∃ d, Run (step BusOwner.Session.sampleConfig 0) (fun _ _ => True)
      (init ⟨0x00, false, 0x80, 32, 1, 1⟩ Network.sampleBinding) sampleExchange d ∧
    d.1.loop.history.length = 1 ∧
    ∃ call : Network.Call, d.2.polling.net.calls[0]? = some call ∧
      call.stage = .returned (.extended 0 1 1 0)
        [0x01, 0x00, 0x00, 0xC0, 0x00, 0x00, 0x0D, 0x00, 0xE1] := by
  have hend : ((sampleExchange.foldlM (step BusOwner.Session.sampleConfig 0)
      (init ⟨0x00, false, 0x80, 32, 1, 1⟩ Network.sampleBinding)).map fun d =>
        (d.1.loop.history.length, d.2.polling.net.calls[0]?.map Network.Call.stage)) =
      some (1, some (.returned (.extended 0 1 1 0)
        [0x01, 0x00, 0x00, 0xC0, 0x00, 0x00, 0x0D, 0x00, 0xE1])) := by
    decide +kernel
  obtain ⟨d, hd, hresult⟩ := Option.map_eq_some_iff.mp hend
  obtain ⟨hhistory, hstage⟩ := Prod.mk.inj hresult
  obtain ⟨call, hcall, hreturned⟩ := Option.map_eq_some_iff.mp hstage
  exact ⟨d, Run.of_foldlM_eq hd, hhistory, call, hcall, hreturned⟩

/-- The call has the reply to its notification, with the packet error code of its frame. -/
theorem returns_reply_sampleExchange : ∃ (packet reply : Bytes) (frame : Bytes),
    (MctpEndpointContext.handleRequest ⟨0x00, false, 0x80, 32, 1, 1⟩
      (packet ++ [crc8 packet])).1 = .ok reply ∧
    sendFrame true crc8 0x30 0x10 reply = some frame ∧
    [0x01, 0x00, 0x00, 0xC0, 0x00, 0x00, 0x0D, 0x00, 0xE1] = frame.drop 4 := by
  obtain ⟨d, hrun, -, call, hcall, hstage⟩ := run_sampleExchange
  obtain ⟨j, other, reply, frame, -, -, hreply, hsend, -, hbuf⟩ :=
    returns_reply hrun hcall hstage
  exact ⟨other.packet, reply, frame, hreply, hsend, hbuf⟩

/-- The request of the discovery that was notified stays without a response. -/
theorem never_answered_sampleExchange :
    ∃ d, Run (step BusOwner.Session.sampleConfig 0) (fun _ _ => True)
        (init ⟨0x00, false, 0x80, 32, 1, 1⟩ Network.sampleBinding) sampleExchange d ∧
      ∃ packet, d.1.loop.history = [.request packet] := by
  obtain ⟨d, hrun, hlength, -⟩ := run_sampleExchange
  refine ⟨d, hrun, (never_answered hrun).resolve_left fun hnil => ?_⟩
  rw [hnil] at hlength
  cases hlength

end Deployment

end MctpEmu
