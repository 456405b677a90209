import MctpEmu.Network.FlowQueues

/-!
# Replies to the requests of calls

A peer answers a request with a packet whose transport header is the response to the header of the
request. Such a reply fits every flow in flight with the destination and the tag of the request,
whoever registered it.

## Main definitions

* `Network.IsReplyTo`: a datagram carries a reply to the request of a call.
* `Network.Sending`: calls that have not ended, or that have transmitted, hold the packet of a
  client.

## Main results

* `Network.exists_call_of_step`, `Network.reply_of_step`: where the calls and the replies after a
  step come from.
* `Network.Sending.step`: every step keeps the invariant of the packets.
* `Network.firstFlow_of_isReplyTo`: the flow that a reply is matched with.
-/

namespace MctpEmu

namespace Network

open SimpleNetwork

/-- A datagram is an SMBus header in front of a packet that answers the request of call `i`: its
transport header is the response to the header of the request. -/
def IsReplyTo (s : State) (i : ℕ) (buf : Bytes) : Prop :=
  ∃ call hdr smbusHdr body, s.calls[i]? = some call ∧
    FromBinary.tryFrom TransportHeader call.packet = .ok hdr ∧ smbusHdr.length = 4 ∧
    buf = smbusHdr ++ (FromBinary.intoBytes hdr.createResponse ++ body)

/-! ### Where calls come from -/

theorem mem_wholeFrames {i j : ℕ} {sends : List TrySend} (h : j ∈ wholeFrames i sends) :
    j = i := by
  obtain ⟨-, -, rfl⟩ := List.mem_map.mp h
  rfl

/-- A call that has left the queue for the lock, with its packet transmitted or without. -/
def Call.hasLeft (call : Call) : Bool :=
  match call.stage with
  | .locking | .failed _ => false
  | _ => true

/-- A packet of a client. -/
def IsPacket (bytes : Bytes) : Prop :=
  ∃ client address payload, bytes = packet client address payload

variable {pec : Bytes → UInt8}

/-- A call after a step is new, or it is a call from before with the same packet, which may have
gone on if it had not ended. -/
theorem exists_call_of_step {s s' : State} {e : Event} (hs : WellFormed s)
    (h : step pec s e = some s') {i : ℕ} {c' : Call} (hc' : s'.calls[i]? = some c') :
    (i = s.calls.length ∧ s.calls[i]? = none ∧ c'.reply = none ∧
        (c'.isOpen = false ∨ c'.stage = .locking ∧ IsPacket c'.packet)) ∨
      ∃ c, s.calls[i]? = some c ∧ c'.packet = c.packet ∧
        (c'.stage = c.stage ∨ c.isOpen = true ∧ c'.hasLeft = true) := by
  cases transition_of_step hs.poisoned_of_running h with
  | socket => exact .inr ⟨c', hc', rfl, .inl rfl⟩
  | bind sd address msgType tag => exact .inr ⟨c', hc', rfl, .inl rfl⟩
  | @register sd client payload address network phyAddr hclient hpoison =>
    rcases KeyedFifo.getElem?_concat_eq_some.mp hc' with hc | ⟨rfl, rfl⟩
    · exact .inr ⟨c', hc, rfl, .inl rfl⟩
    · exact .inl ⟨rfl, List.getElem?_eq_none le_rfl, rfl,
        .inr ⟨rfl, client, address, payload, rfl⟩⟩
  | refuse payload hrefused hstage hreply =>
    rcases KeyedFifo.getElem?_concat_eq_some.mp hc' with hc | ⟨rfl, rfl⟩
    · exact .inr ⟨c', hc, rfl, .inl rfl⟩
    · refine .inl ⟨rfl, List.getElem?_eq_none le_rfl, hreply, .inl ?_⟩
      rcases hstage with ⟨e, he⟩ | he <;> rw [Call.isOpen, he]
  | @transmit i call sends hcall hstage hholder hsent =>
    rcases (getElem?_set_eq_some hcall _).mp hc' with ⟨rfl, rfl⟩ | ⟨-, hc⟩
    · exact .inr ⟨call, hcall, rfl, .inr ⟨call.isOpen_iff.mpr (.inl hstage), rfl⟩⟩
    · exact .inr ⟨c', hc, rfl, .inl rfl⟩
  | @abort i call sends hcall hstage hholder hsent =>
    rcases (getElem?_set_eq_some hcall _).mp hc' with ⟨rfl, rfl⟩ | ⟨-, hc⟩
    · exact .inr ⟨call, hcall, rfl, .inr ⟨call.isOpen_iff.mpr (.inl hstage), rfl⟩⟩
    · exact .inr ⟨c', hc, rfl, .inl rfl⟩
  | @resume i call reply hcall hstage hreply =>
    rcases (getElem?_set_eq_some hcall _).mp hc' with ⟨rfl, rfl⟩ | ⟨-, hc⟩
    · exact .inr ⟨call, hcall, rfl, .inr ⟨call.isOpen_iff.mpr (.inr hstage), rfl⟩⟩
    · exact .inr ⟨c', hc, rfl, .inl rfl⟩
  | @drop i call hcall hopen =>
    rcases (getElem?_set_eq_some hcall _).mp hc' with ⟨rfl, rfl⟩ | ⟨-, hc⟩
    · exact .inr ⟨call, hcall, rfl, .inr ⟨hopen, rfl⟩⟩
    · exact .inr ⟨c', hc, rfl, .inl rfl⟩
  | discard answers id hdiscard => exact .inr ⟨c', hc', rfl, .inl rfl⟩
  | @complete answers id buf recvTag flow hrunning hfirst htag hfind hopen =>
    obtain ⟨call, -, -, -, hcall, -⟩ := hs.flow flow (List.mem_of_find?_eq_some hfind)
    rcases (getElem?_modify_eq_some hcall _).mp hc' with ⟨rfl, rfl⟩ | ⟨-, hc⟩
    · exact .inr ⟨call, hcall, rfl, .inl rfl⟩
    · exact .inr ⟨c', hc, rfl, .inl rfl⟩
  | crash answers id hrunning hfirst htag hfind hclosed => exact .inr ⟨c', hc', rfl, .inl rfl⟩

/-- Calls are not forgotten. -/
theorem length_calls_le_of_step {s s' : State} {e : Event} (hs : WellFormed s)
    (h : step pec s e = some s') : s.calls.length ≤ s'.calls.length := by
  cases transition_of_step hs.poisoned_of_running h <;>
    simp only [List.length_append, List.length_set, List.length_modify] <;> omega

/-- Only a transmission adds to the frames that were sent. -/
theorem mem_sent_of_step {s s' : State} {e : Event} (hs : WellFormed s)
    (h : step pec s e = some s') {i : ℕ} (hi : i ∈ s'.sent) :
    i ∈ s.sent ∨ ∃ call, s.calls[i]? = some call ∧ call.stage = .locking ∧
      ∀ c', s'.calls[i]? = some c' → c'.hasLeft = true := by
  cases transition_of_step hs.poisoned_of_running h with
  | @transmit i call sends hcall hstage hholder hsent =>
    rcases List.mem_append.mp hi with hi | hi
    · exact .inl hi
    · obtain rfl := mem_wholeFrames hi
      refine .inr ⟨call, hcall, hstage, fun c' hc' => ?_⟩
      rcases (getElem?_set_eq_some hcall _).mp hc' with ⟨-, rfl⟩ | ⟨hne, -⟩
      · rfl
      · exact absurd rfl hne
  | @abort i call sends hcall hstage hholder hsent =>
    rcases List.mem_append.mp hi with hi | hi
    · exact .inl hi
    · obtain rfl := mem_wholeFrames hi
      refine .inr ⟨call, hcall, hstage, fun c' hc' => ?_⟩
      rcases (getElem?_set_eq_some hcall _).mp hc' with ⟨-, rfl⟩ | ⟨hne, -⟩
      · rfl
      · exact absurd rfl hne
  | _ => exact .inl hi

/-- A reply after a step was there before, or it has just come with a datagram that was matched
with the flow of its call. -/
theorem reply_of_step {s s' : State} {e : Event} (hs : WellFormed s)
    (h : step pec s e = some s') {i : ℕ} {c' : Call} {r : Reply} (hc' : s'.calls[i]? = some c')
    (hr : c'.reply = some r) :
    (∃ c, s.calls[i]? = some c ∧ c.reply = some r) ∨
      ∃ id buf flow, e = .receive r.answers id buf ∧ s.handlerRunning = true ∧
        s.net.firstFlow buf = some flow ∧ s.isOpen flow.2 = true ∧ flow.2 = i := by
  cases transition_of_step hs.poisoned_of_running h with
  | register payload address network phyAddr hclient hpoison =>
    rcases KeyedFifo.getElem?_concat_eq_some.mp hc' with hc | ⟨rfl, rfl⟩
    · exact .inl ⟨c', hc, hr⟩
    · cases hr
  | refuse payload hrefused hstage hreply =>
    rcases KeyedFifo.getElem?_concat_eq_some.mp hc' with hc | ⟨rfl, rfl⟩
    · exact .inl ⟨c', hc, hr⟩
    · rw [hreply] at hr
      cases hr
  | @transmit i call sends hcall | @abort i call sends hcall | @resume i call reply hcall
  | @drop i call hcall =>
    rcases (getElem?_set_eq_some hcall _).mp hc' with ⟨rfl, rfl⟩ | ⟨-, hc⟩
    · exact .inl ⟨call, hcall, hr⟩
    · exact .inl ⟨c', hc, hr⟩
  | @complete answers id buf recvTag flow hrunning hfirst htag hfind hopen =>
    obtain ⟨call, -, -, -, hcall, -⟩ := hs.flow flow (List.mem_of_find?_eq_some hfind)
    rcases (getElem?_modify_eq_some hcall _).mp hc' with ⟨rfl, rfl⟩ | ⟨-, hc⟩
    · obtain rfl := Option.some.inj hr
      exact .inr ⟨id, buf, flow, rfl, hrunning, hfirst, hopen, rfl⟩
    · exact .inl ⟨c', hc, hr⟩
  | _ => exact .inl ⟨c', hc', hr⟩

/-! ### Transmitted requests -/

/-- Calls that have not ended hold the packet of a client, and so do the calls that have
transmitted. -/
structure Sending (s : State) : Prop where
  opened : ∀ (i : ℕ) (call : Call), s.calls[i]? = some call → call.isOpen = true →
    IsPacket call.packet
  sent : ∀ i ∈ s.sent, ∃ call : Call, s.calls[i]? = some call ∧ call.hasLeft = true ∧
    IsPacket call.packet

theorem Sending.init (binding : SmbusNetDevBinding) : Sending (Network.init binding) :=
  ⟨fun _ _ hcall => absurd hcall not_call_init, nofun⟩

theorem Sending.step {s s' : State} {e : Event} (hs : WellFormed s) (hsending : Sending s)
    (h : Network.step pec s e = some s') : Sending s' where
  opened i c' hc' hopen := by
    rcases exists_call_of_step hs h hc' with ⟨-, -, -, hclosed | ⟨-, hpacket⟩⟩ |
        ⟨c, hc, hpacket, hstage⟩
    · rw [hclosed] at hopen
      cases hopen
    · exact hpacket
    · rw [hpacket]
      refine hsending.opened i c hc ?_
      rcases hstage with hsame | ⟨hopened, -⟩
      · rwa [Call.isOpen, ← hsame]
      · exact hopened
  sent i hi := by
    have hkeep : ∀ call, s.calls[i]? = some call → IsPacket call.packet →
        ∃ c', s'.calls[i]? = some c' ∧ IsPacket c'.packet ∧
          (c'.stage = call.stage ∨ c'.hasLeft = true) := by
      intro call hcall hpacket
      obtain ⟨hlt, -⟩ := List.getElem?_eq_some_iff.mp hcall
      have hlt' := Nat.lt_of_lt_of_le hlt (length_calls_le_of_step hs h)
      refine ⟨s'.calls[i], List.getElem?_eq_getElem hlt', ?_⟩
      rcases exists_call_of_step hs h (List.getElem?_eq_getElem hlt') with
        ⟨-, hnone, -⟩ | ⟨c, hc, hsame, hstage⟩
      · rw [hcall] at hnone
        cases hnone
      · obtain rfl := Option.some.inj (hc.symm.trans hcall)
        exact ⟨hsame ▸ hpacket, hstage.imp_right And.right⟩
    rcases mem_sent_of_step hs h hi with hold | ⟨call, hcall, hstage, hleft⟩
    · obtain ⟨call, hcall, hleft, hpacket⟩ := hsending.sent i hold
      obtain ⟨c', hc', hp', hstage⟩ := hkeep call hcall hpacket
      refine ⟨c', hc', hstage.elim (fun hsame => ?_) id, hp'⟩
      rwa [Call.hasLeft, hsame]
    · have hopen := call.isOpen_iff.mpr (.inl hstage)
      obtain ⟨c', hc', hp', -⟩ := hkeep call hcall (hsending.opened i call hcall hopen)
      exact ⟨c', hc', hleft c' hc', hp'⟩

/-! ### Matching a reply -/

/-- The response to the header of a request has the addresses swapped, the same tag, and the tag
owner clear. -/
theorem createTag_createResponse (client : Client) (address : UInt8) (rest : Bytes) :
    createTag (FromBinary.intoBytes (TransportHeader.new client.address address client.tag
      (some true) (some true) (some true)).createResponse ++ rest) =
      some ⟨client.address, address, client.tag % 8, false⟩ := by
  rw [createTag_intoBytes, TransportHeader.createResponse]
  simp only [TransportHeader.destinationEid_new, TransportHeader.sourceEid_new,
    TransportHeader.msgTag_new, TransportHeader.tagOwner_new, BitField.lowBits_lowBits]
  simp only [lowBits_three]
  rfl

/-- A reply to the request of a client is matched with the oldest flow in flight that has the
destination of the request and its tag modulo 8. -/
theorem firstFlow_of_isReplyTo {s : State} (hs : WellFormed s) {i : ℕ} {call : Call}
    {client : Client} {address : UInt8} {payload buf : Bytes} (hcall : s.calls[i]? = some call)
    (hpacket : call.packet = packet client address payload) (h : IsReplyTo s i buf) :
    s.net.firstFlow buf =
      s.net.flows.find? fun flow => flowKey flow = (address, client.tag % 8) := by
  obtain ⟨c, hdr, smbusHdr, body, hc, hhdr, hlen, rfl⟩ := h
  obtain rfl := Option.some.inj (hc.symm.trans hcall)
  have hread : FromBinary.tryFrom TransportHeader c.packet = .ok (.new client.address address
      client.tag (some true) (some true) (some true)) := by
    rw [hpacket]
    exact trySized_encode_append _ payload
  obtain rfl := Except.ok.inj (hhdr.symm.trans hread)
  rw [firstFlow, if_neg (by rw [List.length_append]; omega), List.drop_left' hlen,
    createTag_createResponse, Option.bind_some]
  refine List.find?_congr fun flow hflow => ?_
  rw [matchesFlow_eq hs _ hflow]
  rfl

/-! ### A sample exchange -/

/-- A call of the endpoint `src`, with tag 9, for a command of the endpoint `0x0A`. -/
def sampleCall (src command : UInt8) (stage : Stage) (reply : Option Reply) : Call :=
  ⟨[0x01, 0x0A, src, 0xC9, 0x00, 0x80, command], 0x25, stage, reply⟩

/-- A reply to such a call. -/
def sampleReply (src command : UInt8) : Bytes :=
  [0x20, 0x0F, 0x08, 0x4B, 0x01, src, 0x0A, 0xC1, 0x00, 0x00, command]

theorem isReplyTo_sampleReply {s : State} {i : ℕ} {src command : UInt8} {stage : Stage}
    {reply : Option Reply} (h : s.calls[i]? = some (sampleCall src command stage reply)) :
    IsReplyTo s i (sampleReply src command) := by
  have hresponse : TransportHeader.createResponse ⟨#v[0x01], 0x0A, src, #v[0xC9]⟩ =
      ⟨#v[0x01], src, 0x0A, #v[0xC1]⟩ := TransportHeader.createResponse_mk ..
  refine ⟨_, ⟨#v[0x01], 0x0A, src, #v[0xC9]⟩, [0x20, 0x0F, 0x08, 0x4B], [0x00, 0x00, command], h,
    ?_, rfl, ?_⟩
  · exact trySized_encode_append (⟨#v[0x01], 0x0A, src, #v[0xC9]⟩ : TransportHeader)
      [0x00, 0x80, command]
  · rw [hresponse]
    rfl

/-- What the channel of a sample call gets for a reply. -/
def sampleLabel (answers : ℕ) (src command : UInt8) : Reply :=
  ⟨some answers, .receive (.extended 0 1 1 0) ((sampleReply src command).drop 4)⟩

/-- A sample call that has returned. -/
def sampleReturned (src command : UInt8) (label : Reply) : Call :=
  sampleCall src command (.returned label.response.addr label.response.buf) (some label)

/-- A call of socket 0 is transmitted, in two frames, and returns with the reply to one of them. -/
theorem run_firstExchange {C : State → Event → Prop} (hsocket : ∀ s, C s .socket)
    (hbind : ∀ s sd address msgType tag, C s (.bind sd address msgType tag))
    (hsendto : ∀ s sd payload addr, C s (.sendto sd payload addr))
    (hresume : ∀ s i, C s (.resume i))
    (htransmit : C ⟨twoSockets [(⟨0x0A, 0x08, 1, true⟩, 0)], [sampleCall 0x08 0x02 .locking none],
      none, true, [], []⟩ (.transmit 0 (.ok 12, .ok 12)))
    (hreceive : C ⟨twoSockets [(⟨0x0A, 0x08, 1, true⟩, 0)], [sampleCall 0x08 0x02 .waiting none],
      some 0, true, [0, 0], []⟩ (.receive (some 0) 1 (sampleReply 0x08 0x02))) :
    StepSystem.Run (step crc8) C (init sampleBinding)
      (openTwoSockets ++ [.sendto 0 [0x00, 0x80, 0x02] (.extended 0x0A 1 1 0x25)] ++
        [.transmit 0 (.ok 12, .ok 12)] ++ [.receive (some 0) 1 (sampleReply 0x08 0x02)] ++
        [.resume 0])
      ⟨twoSockets [], [sampleReturned 0x08 0x02 (sampleLabel 0 0x08 0x02)], none, true, [0, 0],
        [0]⟩ := by
  have hcalled : StepSystem.Run (step crc8) C (init sampleBinding)
      (openTwoSockets ++ [.sendto 0 [0x00, 0x80, 0x02] (.extended 0x0A 1 1 0x25)])
      ⟨twoSockets [(⟨0x0A, 0x08, 1, true⟩, 0)], [sampleCall 0x08 0x02 .locking none], none, true,
        [], []⟩ :=
    (run_openTwoSockets hsocket hbind).snoc rfl
      (hsendto _ 0 [0x00, 0x80, 0x02] (.extended 0x0A 1 1 0x25))
  have h₁ : step crc8 ⟨twoSockets [(⟨0x0A, 0x08, 1, true⟩, 0)],
      [sampleCall 0x08 0x02 .locking none], none, true, [], []⟩ (.transmit 0 (.ok 12, .ok 12)) =
      some ⟨twoSockets [(⟨0x0A, 0x08, 1, true⟩, 0)], [sampleCall 0x08 0x02 .waiting none], some 0,
        true, [0, 0], []⟩ := rfl
  have h₂ : step crc8 ⟨twoSockets [(⟨0x0A, 0x08, 1, true⟩, 0)],
      [sampleCall 0x08 0x02 .waiting none], some 0, true, [0, 0], []⟩
      (.receive (some 0) 1 (sampleReply 0x08 0x02)) =
      some ⟨twoSockets [], [sampleCall 0x08 0x02 .waiting (some (sampleLabel 0 0x08 0x02))], some 0,
        true, [0, 0], [0]⟩ := rfl
  have h₃ : step crc8 ⟨twoSockets [],
      [sampleCall 0x08 0x02 .waiting (some (sampleLabel 0 0x08 0x02))], some 0, true, [0, 0], [0]⟩
      (.resume 0) = some ⟨twoSockets [], [sampleReturned 0x08 0x02 (sampleLabel 0 0x08 0x02)],
        none, true, [0, 0], [0]⟩ := rfl
  exact ((hcalled.snoc h₁ htransmit).snoc h₂ hreceive).snoc h₃ (hresume _ 0)

end Network

end MctpEmu
