import MctpEmu.Control.Payload
import MctpEmu.Network.Replies

/-!
# Replies of the control layer

A peer that handles control messages parses a packet with `ControlPayload::try_from` and answers
with `create_response_payload`. What it sends back is a reply to the request, whatever control
header and body it chose, and is matched with a flow no later than that of the request. The flow of
a call that has ended stays in the list, and the reply that is matched with it panics the receive
loop.

## Main definitions

* `Network.IsControlReplyTo`: a datagram carries what the control layer of a peer answers.
* `Network.CompletesFlow`: a datagram completes a flow with a given destination and tag.
* `Network.OldestAttended`: the oldest flow with a given destination and tag has its caller.

## Main results

* `Network.IsControlReplyTo.isReplyTo`: such a datagram is a reply.
* `Network.exists_flow_of_isReplyTo`: the flow that a reply to a call in flight is matched with.
* `Network.controlReply_completes_iff`: no reply to a pending request is discarded, and when it
  completes a flow.
* `Network.not_completesFlow_of_abort`: a failed transmission leaves a flow that stops the loop.
-/

namespace MctpEmu

namespace Network

open SimpleNetwork

/-- A datagram is an SMBus header in front of the answer that a peer creates for the parsed packet
of call `i`, and whatever follows it. -/
def IsControlReplyTo (s : State) (i : ℕ) (buf : Bytes) : Prop :=
  ∃ call p controlHdr body smbusHdr trailer, s.calls[i]? = some call ∧
    ControlPayload.tryFrom call.packet = .ok p ∧ smbusHdr.length = 4 ∧
    buf = smbusHdr ++ ((p.createResponsePayload controlHdr body).intoBytes ++ trailer)

/-- The control layer answers with the response to the header of the request. -/
theorem IsControlReplyTo.isReplyTo {s : State} {i : ℕ} {buf : Bytes}
    (h : IsControlReplyTo s i buf) : IsReplyTo s i buf := by
  obtain ⟨call, p, controlHdr, body, smbusHdr, trailer, hcall, hparse, hlen, rfl⟩ := h
  have hhdr : FromBinary.tryFrom TransportHeader call.packet = .ok p.hdr := by
    rw [← ControlPayload.intoBytes_of_tryFrom hparse]
    exact trySized_encode_append p.hdr p.payload
  refine ⟨call, p.hdr, smbusHdr, body ++ trailer, hcall, hhdr, hlen, ?_⟩
  rw [← List.append_assoc (FromBinary.intoBytes _)]
  rfl

/-- The packet of a call with at least three bytes of payload is parsed. -/
theorem exists_tryFrom_packet (client : Client) (address : UInt8) {payload : Bytes}
    (h : 3 ≤ payload.length) :
    ∃ p, ControlPayload.tryFrom (packet client address payload) = .ok p := by
  have hlen : 7 ≤ (packet client address payload).length := by
    rw [packet, List.length_append, FromBinary.intoBytes, FixedCodec.length_encode,
      TransportHeader.size_eq]
    omega
  obtain ⟨b₀, b₁, b₂, b₃, b₄, b₅, b₆, rest, hcons⟩ := ControlPayload.exists_eq_cons_of_le hlen
  rw [hcons]
  exact ⟨_, ControlPayload.tryFrom_cons ..⟩

/-- A reply to a call whose flow is in flight is matched with a flow that has the destination and
the tag of the request and is no later than that of the call. -/
theorem exists_flow_of_isReplyTo {s : State} (hs : WellFormed s) {k i : ℕ} {tag : MsgFlowTag}
    (hflow : s.net.flows[k]? = some (tag, i)) {buf : Bytes} (hreply : IsReplyTo s i buf) :
    ∃ recvTag flow, createTag (buf.drop 4) = some recvTag ∧
      s.net.firstFlow buf = some flow ∧ s.net.flows.find? (matchesFlow recvTag) = some flow ∧
      s.net.flows.findIdx (matchesFlow recvTag) ≤ k ∧ flowKey flow = flowKey (tag, i) := by
  have hmem : (tag, i) ∈ s.net.flows := List.mem_of_getElem? hflow
  obtain ⟨call, client, address, payload, hcall, -, htag, hpacket⟩ := hs.flow _ hmem
  have hkey : flowKey (tag, i) = (address, client.tag % 8) := by
    rw [← flowKey_flowTag client address i, ← htag]
  have hfind := firstFlow_of_isReplyTo hs hcall hpacket hreply
  obtain ⟨flow, hfirst⟩ : ∃ flow, s.net.firstFlow buf = some flow := by
    rw [hfind, ← Option.isSome_iff_exists, List.find?_isSome]
    exact ⟨_, hmem, decide_eq_true hkey⟩
  rw [hfirst] at hfind
  have hsame := List.find?_some hfind.symm
  rw [decide_eq_true_eq, ← hkey] at hsame
  obtain ⟨recvTag, hrecv⟩ := exists_createTag (buf.drop 4)
  have hlen : ¬ buf.length < 4 := by
    intro hlt
    rw [firstFlow, if_pos hlt] at hfirst
    cases hfirst
  have hmatch := hfirst
  rw [firstFlow, if_neg hlen, hrecv, Option.bind_some] at hmatch
  refine ⟨recvTag, flow, hrecv, hfirst, hmatch, ?_, hsame⟩
  -- The flow of the call matches as well, so the scan stops no later than at it.
  have hown : matchesFlow recvTag (tag, i) = true := by
    have hfits := List.find?_some hmatch
    rw [matchesFlow_eq hs recvTag (List.mem_of_find?_eq_some hmatch)] at hfits
    rw [matchesFlow_eq hs recvTag hmem, ← hsame]
    exact hfits
  by_contra hlt
  obtain ⟨hk, hget⟩ := List.getElem?_eq_some_iff.mp hflow
  have hnot := List.not_of_lt_findIdx (Nat.lt_of_not_le hlt)
  rw [hget, hown] at hnot
  cases hnot

/-- Receiving a datagram completes a flow of the list with a given key, at or before position `k`:
the flow is taken off the list, and its channel gets the bytes behind the SMBus header. -/
def CompletesFlow (s : State) (k : ℕ) (key : UInt8 × UInt8) (id : UInt64) (buf : Bytes) : Prop :=
  ∃ k' flow, k' ≤ k ∧ s.net.flows[k']? = some flow ∧ flowKey flow = key ∧
    s.net.callbackHandler s.isOpen id buf =
      (.sent flow.2 (.receive (.extended 0 1 id 0) (buf.drop 4)),
        { s.net with flows := s.net.flows.eraseIdx k' })

/-- The receive loop runs, and the oldest flow with a given key belongs to a call that has not
ended. -/
def OldestAttended (s : State) (key : UInt8 × UInt8) : Prop :=
  s.handlerRunning = true ∧
    ∀ flow, (KeyedFifo.queue flowKey s.net.flows key).head? = some flow → s.isOpen flow.2 = true

/-- While callers are kept, the oldest flow of every key is attended. -/
theorem OldestAttended.of_run {pec : Bytes → UInt8} {binding : SmbusNetDevBinding}
    {es : List Event} {s : State}
    (hrun : StepSystem.Run (step pec) (KeepsCallers pec) (init binding) es s)
    (key : UInt8 × UInt8) : OldestAttended s key := by
  have hs := attended_run hrun
  refine ⟨hs.running, fun flow hflow => hs.attended flow ?_⟩
  exact List.mem_of_mem_filter (List.mem_of_head? hflow)

/-- A datagram that panics the receive loop completes nothing. -/
theorem not_completesFlow_of_panicked {s : State} {k : ℕ} {key : UInt8 × UInt8} {id : UInt64}
    {buf : Bytes} (h : (s.net.callbackHandler s.isOpen id buf).1 = .panicked) :
    ¬ CompletesFlow s k key id buf := by
  rintro ⟨k', flow, -, -, -, hsent⟩
  rw [hsent] at h
  cases h

/-- A reply to a call whose flow is in flight is never discarded, and it completes a flow exactly
when the oldest flow with the destination and the tag of the request is attended. -/
theorem completesFlow_iff {s : State} (hs : WellFormed s) {k i : ℕ} {call : Call}
    {client : Client} {address : UInt8} {payload : Bytes}
    (hflow : s.net.flows[k]? = some (flowTag client address, i))
    (hcall : s.calls[i]? = some call) (hpacket : call.packet = packet client address payload)
    {buf : Bytes} (hreply : IsReplyTo s i buf) (id : UInt64) :
    (s.net.callbackHandler s.isOpen id buf).1 ≠ .discarded ∧
      (CompletesFlow s k (address, client.tag % 8) id buf ↔
        OldestAttended s (address, client.tag % 8)) := by
  obtain ⟨recvTag, flow, hrecv, hfirst, hmatch, hle, hkey⟩ :=
    exists_flow_of_isReplyTo hs hflow hreply
  rw [flowKey_flowTag] at hkey
  have holdest : (KeyedFifo.queue flowKey s.net.flows (address, client.tag % 8)).head? =
      some flow := by
    rw [KeyedFifo.head?_queue, ← firstFlow_of_isReplyTo hs hcall hpacket hreply, hfirst]
  have hpanics (hpanicked : (s.net.callbackHandler s.isOpen id buf).1 = .panicked)
      (hnot : ¬ OldestAttended s (address, client.tag % 8)) :
      (s.net.callbackHandler s.isOpen id buf).1 ≠ .discarded ∧
        (CompletesFlow s k (address, client.tag % 8) id buf ↔
          OldestAttended s (address, client.tag % 8)) :=
    ⟨hpanicked ▸ nofun, iff_of_false (not_completesFlow_of_panicked hpanicked) hnot⟩
  cases hpoison : s.net.flowsPoisoned with
  | true =>
    -- The loop has panicked before, and the mutex that it takes again is poisoned.
    refine hpanics ?_ ?_
    · rw [callbackHandler_of_poisoned s.net s.isOpen id hpoison hfirst]
    · rintro ⟨hrunning, -⟩
      rw [hs.handler, hpoison] at hrunning
      cases hrunning
  | false =>
    obtain ⟨recvTag', hrecv', -, hhandled⟩ :=
      callbackHandler_of_some s.net s.isOpen id hpoison hfirst
    obtain rfl := Option.some.inj (hrecv'.symm.trans hrecv)
    cases hopen : s.isOpen flow.2 with
    | true =>
      rw [hopen, if_pos rfl, ← KeyedFifo.eraseIdx_findIdx] at hhandled
      refine ⟨by rw [hhandled]; nofun, iff_of_true ?_ ⟨?_, fun flow' hflow' => ?_⟩⟩
      · refine ⟨s.net.flows.findIdx (matchesFlow recvTag'), flow, hle, ?_, hkey, hhandled⟩
        rw [KeyedFifo.getElem?_findIdx, hmatch]
      · rw [hs.handler, hpoison]
        rfl
      · obtain rfl := Option.some.inj (holdest.symm.trans hflow')
        exact hopen
    | false =>
      rw [hopen, if_neg nofun] at hhandled
      refine hpanics (by rw [hhandled]) ?_
      rintro ⟨-, hattended⟩
      rw [hattended flow holdest] at hopen
      cases hopen

/-- **When a control reply completes a flow.** In any run, a reply that the control layer of a peer
makes from the packet of a call whose flow is in flight is not discarded, and it completes a flow
with the same destination and tag, at or before that of the call, exactly when the oldest of these
flows belongs to a call that has not ended and the receive loop runs; it does so in every run that
keeps its callers. -/
theorem controlReply_completes_iff (pec : Bytes → UInt8) (binding : SmbusNetDevBinding)
    {C : State → Event → Prop} (es : List Event) (s : State)
    (hrun : StepSystem.Run (step pec) C (init binding) es s) {k i : ℕ} {call : Call}
    {client : Client} {address : UInt8} {payload : Bytes}
    (hflow : s.net.flows[k]? = some (flowTag client address, i))
    (hcall : s.calls[i]? = some call) (hpacket : call.packet = packet client address payload)
    (hpayload : 3 ≤ payload.length) :
    (∃ p, ControlPayload.tryFrom call.packet = .ok p) ∧
    ∀ buf id, IsControlReplyTo s i buf →
      (s.net.callbackHandler s.isOpen id buf).1 ≠ .discarded ∧
      (CompletesFlow s k (address, client.tag % 8) id buf ↔
        OldestAttended s (address, client.tag % 8)) ∧
      (StepSystem.Run (step pec) (KeepsCallers pec) (init binding) es s →
        CompletesFlow s k (address, client.tag % 8) id buf) := by
  obtain ⟨p, hparse⟩ := exists_tryFrom_packet client address hpayload
  refine ⟨⟨p, hpacket ▸ hparse⟩, fun buf id hcontrol => ?_⟩
  have hs := wellFormed_run hrun
  obtain ⟨hkept, hiff⟩ := completesFlow_iff hs hflow hcall hpacket hcontrol.isReplyTo id
  exact ⟨hkept, hiff, fun hkeeps => hiff.mpr (.of_run hkeeps _)⟩

/-- The sample reply to a sample call is one of the control layer. -/
theorem isControlReplyTo_sampleReply {s : State} {i : ℕ} {src : UInt8} {stage : Stage}
    {reply : Option Reply} (h : s.calls[i]? = some (sampleCall src 0x02 stage reply)) :
    IsControlReplyTo s i (sampleReply src 0x02) := by
  have hresponse : TransportHeader.createResponse ⟨#v[0x01], 0x0A, src, #v[0xC9]⟩ =
      ⟨#v[0x01], src, 0x0A, #v[0xC1]⟩ := TransportHeader.createResponse_mk ..
  refine ⟨_, _, ⟨#v[0x00, 0x00], .getEndpointID⟩, [0x00, 0x00, 0x02], [0x20, 0x0F, 0x08, 0x4B], [],
    h, ControlPayload.tryFrom_cons .., rfl, ?_⟩
  rw [ControlPayload.createResponsePayload, hresponse]
  rfl

/-- A call of socket 0 has registered. -/
def sampleOneCall (first : Call) : State :=
  ⟨twoSockets [(flowTag ⟨0x08, 0, 9⟩ 0x0A, 0)], [first], none, true, [], []⟩

/-- A call of socket 1 has registered after it. -/
def sampleTwoCalls (first : Call) (stage : Stage) (bindingHolder : Option ℕ) (sent : List ℕ) :
    State :=
  ⟨twoSockets [(flowTag ⟨0x08, 0, 9⟩ 0x0A, 0), (flowTag ⟨0x09, 0, 9⟩ 0x0A, 1)],
    [first, sampleCall 0x09 0x02 stage none], bindingHolder, true, sent, []⟩

/-- The reply to the call of socket 1, which has transmitted first, completes the older call of
socket 0. -/
theorem controlReply_completes_iff_olderCall :
    ∃ es s, StepSystem.Run (step crc8) (KeepsCallers crc8) (init sampleBinding) es s ∧
      1 ∈ s.sent ∧ IsControlReplyTo s 1 (sampleReply 0x09 0x02) ∧
      CompletesFlow s 1 (0x0A, 1) 1 (sampleReply 0x09 0x02) ∧
      s.net.callbackHandler s.isOpen 1 (sampleReply 0x09 0x02) =
        (.sent 0 (.receive (.extended 0 1 1 0) ((sampleReply 0x09 0x02).drop 4)),
          twoSockets [(flowTag ⟨0x09, 0, 9⟩ 0x0A, 1)]) := by
  have h₁ : step crc8 ⟨twoSockets [], [], none, true, [], []⟩
      (.sendto 0 [0x00, 0x80, 0x02] (.extended 0x0A 1 1 0x25)) =
      some (sampleOneCall (sampleCall 0x08 0x02 .locking none)) := rfl
  have h₂ : step crc8 (sampleOneCall (sampleCall 0x08 0x02 .locking none))
      (.sendto 1 [0x00, 0x80, 0x02] (.extended 0x0A 1 1 0x25)) =
      some (sampleTwoCalls (sampleCall 0x08 0x02 .locking none) .locking none []) := rfl
  have h₃ : step crc8 (sampleTwoCalls (sampleCall 0x08 0x02 .locking none) .locking none [])
      (.transmit 1 (.ok 12, .ok 12)) = some (sampleTwoCalls (sampleCall 0x08 0x02 .locking none)
        .waiting (some 1) [1, 1]) := rfl
  have htransmits : KeepsCallers crc8
      (sampleTwoCalls (sampleCall 0x08 0x02 .locking none) .locking none [])
      (.transmit 1 (.ok 12, .ok 12)) := by
    intro call hcall
    obtain rfl := Option.some.inj hcall
    exact ⟨rfl, by decide, nofun, rfl⟩
  have hopen : StepSystem.Run (step crc8) (KeepsCallers crc8) (init sampleBinding) openTwoSockets
      ⟨twoSockets [], [], none, true, [], []⟩ :=
    run_openTwoSockets (fun _ => trivial) fun _ _ _ _ _ => trivial
  have hrun := ((hopen.snoc h₁ trivial).snoc h₂ trivial).snoc h₃ htransmits
  have hpacket : (sampleCall 0x09 0x02 .waiting none).packet =
      packet ⟨0x09, 0, 9⟩ 0x0A [0x00, 0x80, 0x02] := rfl
  have hcontrol : IsControlReplyTo (sampleTwoCalls (sampleCall 0x08 0x02 .locking none) .waiting
      (some 1) [1, 1]) 1 (sampleReply 0x09 0x02) := isControlReplyTo_sampleReply rfl
  obtain ⟨-, hall⟩ := controlReply_completes_iff crc8 sampleBinding _ _ hrun (k := 1) rfl rfl
    hpacket (by decide)
  obtain ⟨-, -, hcompletes⟩ := hall _ 1 hcontrol
  exact ⟨_, _, hrun, List.mem_cons_self, hcontrol, hcompletes hrun, rfl⟩

/-- The flow of a call with an invalid address stays in the list, and the reply to a later request
with its destination and tag panics the receive loop. -/
theorem not_completesFlow_of_abort :
    ∃ es s, StepSystem.Run (step crc8) (fun _ _ => True) (init sampleBinding) es s ∧
      s.net.flows[1]? = some (flowTag ⟨0x09, 0, 9⟩ 0x0A, 1) ∧ 1 ∈ s.sent ∧
      IsControlReplyTo s 1 (sampleReply 0x09 0x02) ∧
      (s.net.callbackHandler s.isOpen 1 (sampleReply 0x09 0x02)).1 = .panicked ∧
      ¬ CompletesFlow s 1 (0x0A, 1) 1 (sampleReply 0x09 0x02) := by
  let aborted : Call := { sampleCall 0x08 0x02 .panicked none with phyAddr := 0 }
  have h₁ : step crc8 ⟨twoSockets [], [], none, true, [], []⟩
      (.sendto 0 [0x00, 0x80, 0x02] (.extended 0x0A 1 1 0)) =
      some (sampleOneCall (aborted.goto .locking)) := rfl
  have h₂ : step crc8 (sampleOneCall (aborted.goto .locking)) (.transmit 0 (.ok 12, .ok 12)) =
      some (sampleOneCall aborted) := rfl
  have h₃ : step crc8 (sampleOneCall aborted)
      (.sendto 1 [0x00, 0x80, 0x02] (.extended 0x0A 1 1 0x25)) =
      some (sampleTwoCalls aborted .locking none []) := rfl
  have h₄ : step crc8 (sampleTwoCalls aborted .locking none []) (.transmit 1 (.ok 12, .ok 12)) =
      some (sampleTwoCalls aborted .waiting (some 1) [1, 1]) := rfl
  have hopen : StepSystem.Run (step crc8) (fun _ _ => True) (init sampleBinding) openTwoSockets
      ⟨twoSockets [], [], none, true, [], []⟩ :=
    run_openTwoSockets (fun _ => trivial) fun _ _ _ _ _ => trivial
  have hrun := (((hopen.snoc h₁ trivial).snoc h₂ trivial).snoc h₃ trivial).snoc h₄ trivial
  exact ⟨_, _, hrun, rfl, List.mem_cons_self, isControlReplyTo_sampleReply rfl, rfl,
    not_completesFlow_of_panicked rfl⟩

end Network

end MctpEmu
