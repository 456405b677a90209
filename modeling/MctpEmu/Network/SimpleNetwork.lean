import MctpEmu.Library.KeyedFifo
import MctpEmu.Phys.SmbusNetDev

/-!
# The network between sockets and one binding

`SimpleNetwork` of `src/network/simple_network.rs` keeps the bound sockets and the flows in
flight. A flow is the tag of a request and the sending half of a one-shot channel, here a number;
`callback_handler` completes the first flow that fits a received packet.

## Main definitions

* `SimpleNetwork`, `SimpleNetwork.socket`, `SimpleNetwork.bind`.
* `SimpleNetwork.registerFlow`: `sendto` up to the registration of its flow.
* `SimpleNetwork.callbackHandler`: one turn of the receive loop.
* `SimpleNetwork.firstFlow`: the flow that a datagram is matched with.

## Main results

* `SimpleNetwork.registerFlow_extended`: what a call registers.
* `SimpleNetwork.callbackHandler_of_none`, `SimpleNetwork.callbackHandler_of_some`: what a
  datagram does, by the flow it is matched with.
-/

namespace MctpEmu

/-- The state of `SimpleNetwork`; `flowsPoisoned` is the poison flag of the mutex around
`flows`. -/
structure SimpleNetwork where
  clients : Int32 → Option Client
  numClients : Int32
  physBindings : SmbusNetDevBinding
  flows : List (MsgFlowTag × ℕ)
  flowsPoisoned : Bool

/-- How handling one datagram ends. -/
inductive Handled
  | discarded
  | sent (channel : ℕ) (response : ClientCallbackMsg)
  | panicked
deriving DecidableEq, Repr

namespace SimpleNetwork

/-- `SimpleNetwork::new`. -/
def new (binding : SmbusNetDevBinding) : SimpleNetwork where
  clients := fun _ => none
  numClients := 0
  physBindings := binding
  flows := []
  flowsPoisoned := false

/-- `SimpleNetwork::get_binding`. -/
def getBinding (net : SimpleNetwork) (bindingId : UInt64) :
    Except Network.Error SmbusNetDevBinding :=
  if bindingId ≠ 1 then .error (.invalidBindingError bindingId) else .ok net.physBindings

/-- `SimpleNetwork::get_client`. -/
def getClient (net : SimpleNetwork) (sd : Int32) : Except MctpEmuError Client :=
  match net.clients sd with
  | some client => .ok client
  | none => .error (.network (.invalidSocketError sd))

/-- `MctpNetwork::socket`: the counter wraps. -/
def socket (net : SimpleNetwork) : Int32 × SimpleNetwork :=
  (net.numClients, { net with numClients := net.numClients + 1 })

/-- `MctpNetwork::bind`; the subtraction is checked. -/
def bind (net : SimpleNetwork) (sd : Int32) (address msgType tag : UInt8) :
    Outcome MctpEmuError Unit × SimpleNetwork :=
  if net.numClients = Int32.minValue then (.panic "attempt to subtract with overflow", net)
  else if sd < net.numClients - 1 then (.err (.network (.invalidSocketError sd)), net)
  else
    let clientHandle : Client := { address, msgType, tag }
    (.ok (), { net with clients := Function.update net.clients sd (some clientHandle) })

/-- `MctpNetwork::sendto` up to the registration of its flow on a new channel: the packet and
the physical address that are then transmitted. -/
def registerFlow (net : SimpleNetwork) (channel : ℕ) (sd : Int32) (payload : Bytes)
    (addr : SocketAddress) :
    Outcome MctpEmuError (SmbusNetDevBinding × Bytes × UInt64) × SimpleNetwork :=
  match addr with
  | .basic _ _ _ =>
    (.panic "not yet implemented: Support looking up routes to get the physical address", net)
  | .extended address _ bindingId phyAddr =>
    match net.getBinding bindingId with
    | .error e => (.err (.network e), net)
    | .ok bindingHandle =>
      match net.getClient sd with
      | .error e => (.err e, net)
      | .ok client =>
        let hdr := TransportHeader.new client.address address client.tag (some true) (some true)
          (some true)
        let buf := FromBinary.intoBytes hdr ++ payload
        match createTag buf with
        | none => (.err (.network (.other "failed to allocate tag")), net)
        | some tag =>
          if net.flowsPoisoned then (.panic "PoisonError", net)
          else (.ok (bindingHandle, buf, phyAddr),
            { net with flows := net.flows ++ [(tag, channel)] })

/-- The comparison of a flow with the tag of a received packet. The source endpoint id of the
flow is not looked at. -/
def matchesFlow (recvTag : MsgFlowTag) (flow : MsgFlowTag × ℕ) : Bool :=
  flow.1.msgTag == recvTag.msgTag && flow.1.tagOwner != recvTag.tagOwner &&
    flow.1.destEid == recvTag.srcEid

/-- `SmbusPhysTransportHeader::try_from` and the slice behind the header. -/
def receiveBuf (buf : Bytes) : Except MctpBaseLibError (SmbusPhysTransportHeader × Bytes) :=
  match FromBinary.tryFrom SmbusPhysTransportHeader buf with
  | .error e => .error e
  | .ok transportHdr => .ok (transportHdr, buf.drop 4)

/-- `SimpleNetwork::callback_handler` on one datagram, where `isOpen` tells which channels still
have their receiver. -/
def callbackHandler (net : SimpleNetwork) (isOpen : ℕ → Bool) (id : UInt64) (buf : Bytes) :
    Handled × SimpleNetwork :=
  match receiveBuf buf with
  | .error _ => (.discarded, net)
  | .ok (_, buf) =>
    match createTag buf with
    | none => (.discarded, net)
    | some recvTag =>
      let response := ClientCallbackMsg.receive (.extended 0 1 id 0) buf
      if net.flowsPoisoned then (.panicked, net)
      else
        let index := net.flows.findIdx (matchesFlow recvTag)
        match net.flows[index]? with
        | some (_, resp) =>
          let flows := net.flows.eraseIdx index
          -- The send fails without a receiver, and is unwrapped while the mutex is held.
          if isOpen resp then (.sent resp response, { net with flows })
          else (.panicked, { net with flows, flowsPoisoned := true })
        | none => (.discarded, net)

/-- Binding a socket does not touch the flows. -/
@[simp] theorem flows_bind (net : SimpleNetwork) (sd : Int32) (address msgType tag : UInt8) :
    (net.bind sd address msgType tag).2.flows = net.flows := by
  unfold bind
  split_ifs <;> rfl

@[simp] theorem flowsPoisoned_bind (net : SimpleNetwork) (sd : Int32)
    (address msgType tag : UInt8) :
    (net.bind sd address msgType tag).2.flowsPoisoned = net.flowsPoisoned := by
  unfold bind
  split_ifs <;> rfl

/-! ### Registration -/

/-- The tag that `sendto` gives to a flow. -/
def flowTag (client : Client) (address : UInt8) : MsgFlowTag :=
  ⟨address, client.address, BitField.lowBits 3 client.tag, true⟩

/-- The packet that `sendto` transmits. -/
def packet (client : Client) (address : UInt8) (payload : Bytes) : Bytes :=
  FromBinary.intoBytes (TransportHeader.new client.address address client.tag (some true)
    (some true) (some true)) ++ payload

/-- The tag of the packet is read back from its own header. -/
theorem createTag_packet (client : Client) (address : UInt8) (payload : Bytes) :
    createTag (packet client address payload) = some (flowTag client address) := by
  rw [packet, createTag_intoBytes]
  simp only [TransportHeader.destinationEid_new, TransportHeader.sourceEid_new,
    TransportHeader.msgTag_new, TransportHeader.tagOwner_new]
  rfl

section Register

variable (net : SimpleNetwork) (channel : ℕ) (sd : Int32) (payload : Bytes)

/-- A call of a bound socket to an extended address of the binding appends its flow and transmits
its packet; with a poisoned mutex it panics. -/
theorem registerFlow_extended {client : Client} (h : net.clients sd = some client)
    (address : UInt8) (network : UInt32) (phyAddr : UInt64) :
    net.registerFlow channel sd payload (.extended address network 1 phyAddr) =
      if net.flowsPoisoned then (.panic "PoisonError", net)
      else (.ok (net.physBindings, packet client address payload, phyAddr),
        { net with flows := net.flows ++ [(flowTag client address, channel)] }) := by
  have hclient : net.getClient sd = .ok client := by rw [getClient, h]
  have htag := createTag_packet client address payload
  simp only [packet] at htag
  simp only [registerFlow, getBinding, ne_eq, not_true, if_false, hclient, htag, packet]

theorem registerFlow_of_binding {bindingId : UInt64} (h : bindingId ≠ 1) (address : UInt8)
    (network : UInt32) (phyAddr : UInt64) :
    net.registerFlow channel sd payload (.extended address network bindingId phyAddr) =
      (.err (.network (.invalidBindingError bindingId)), net) := by
  simp only [registerFlow, getBinding, if_pos h]

theorem registerFlow_of_unbound (h : net.clients sd = none) (address : UInt8)
    (network : UInt32) (phyAddr : UInt64) :
    net.registerFlow channel sd payload (.extended address network 1 phyAddr) =
      (.err (.network (.invalidSocketError sd)), net) := by
  simp only [registerFlow, getBinding, ne_eq, not_true, if_false, getClient, h]

/-- Either a call of a bound socket to the binding registers its flow and goes on to transmit, or
nothing changes. -/
theorem registerFlow_cases (addr : SocketAddress) :
    (∃ client address network phyAddr, net.clients sd = some client ∧
      addr = .extended address network 1 phyAddr ∧ net.flowsPoisoned = false ∧
      net.registerFlow channel sd payload addr =
        (.ok (net.physBindings, packet client address payload, phyAddr),
          { net with flows := net.flows ++ [(flowTag client address, channel)] })) ∨
    ((∀ client address network phyAddr, net.clients sd = some client →
        addr = .extended address network 1 phyAddr → net.flowsPoisoned = true) ∧
      (∀ r, (net.registerFlow channel sd payload addr).1 ≠ .ok r) ∧
      (net.registerFlow channel sd payload addr).2 = net) := by
  cases addr with
  | basic address msgType tag => exact .inr ⟨nofun, nofun, rfl⟩
  | extended address network bindingId phyAddr =>
    by_cases hid : bindingId = 1
    · subst hid
      cases hclient : net.clients sd with
      | none =>
        rw [registerFlow_of_unbound net channel sd payload hclient]
        exact .inr ⟨nofun, nofun, rfl⟩
      | some client =>
        have hreg := registerFlow_extended net channel sd payload hclient address network phyAddr
        by_cases hpoison : net.flowsPoisoned = true
        · rw [hreg, if_pos hpoison]
          exact .inr ⟨fun _ _ _ _ _ _ => hpoison, nofun, rfl⟩
        · rw [if_neg hpoison] at hreg
          exact .inl ⟨client, address, network, phyAddr, rfl, rfl,
            Bool.eq_false_iff.mpr hpoison, hreg⟩
    · rw [registerFlow_of_binding net channel sd payload hid]
      refine .inr ⟨fun client a n p _ haddr => ?_, nofun, rfl⟩
      exact absurd (SocketAddress.extended.inj haddr).2.2.1 hid

end Register

/-! ### Reception -/

/-- The first flow that fits a datagram, if the datagram gets as far as the comparison. -/
def firstFlow (net : SimpleNetwork) (buf : Bytes) : Option (MsgFlowTag × ℕ) :=
  if buf.length < 4 then none
  else (createTag (buf.drop 4)).bind fun recvTag => net.flows.find? (matchesFlow recvTag)

theorem firstFlow_eq_some_iff {net : SimpleNetwork} {buf : Bytes} {flow : MsgFlowTag × ℕ} :
    net.firstFlow buf = some flow ↔ 4 ≤ buf.length ∧ ∃ recvTag,
      createTag (buf.drop 4) = some recvTag ∧
        net.flows.find? (matchesFlow recvTag) = some flow := by
  by_cases hlen : buf.length < 4
  · rw [firstFlow, if_pos hlen]
    exact iff_of_false (Option.some_ne_none flow).symm fun hle => absurd hle.1 (Nat.not_le.mpr hlen)
  · rw [firstFlow, if_neg hlen, Option.bind_eq_some_iff, and_iff_right (Nat.le_of_not_lt hlen)]

/-- The comparison with a tag, field by field. -/
theorem matchesFlow_eq_true_iff {recvTag : MsgFlowTag} {flow : MsgFlowTag × ℕ} :
    matchesFlow recvTag flow = true ↔
      flow.1.destEid = recvTag.srcEid ∧ flow.1.msgTag = recvTag.msgTag ∧
        flow.1.tagOwner = !recvTag.tagOwner := by
  simp only [matchesFlow, Bool.and_eq_true, beq_iff_eq, bne_iff_ne, ne_eq, Bool.eq_not]
  tauto

theorem receiveBuf_of_lt {buf : Bytes} (h : buf.length < 4) : ∃ e, receiveBuf buf = .error e := by
  have hread : FromBinary.tryFrom SmbusPhysTransportHeader buf = .error _ := trySized_of_lt h
  exact ⟨_, by rw [receiveBuf, hread]⟩

theorem receiveBuf_of_le {buf : Bytes} (h : 4 ≤ buf.length) :
    ∃ hdr, receiveBuf buf = .ok (hdr, buf.drop 4) := by
  obtain ⟨hdr, hhdr, -⟩ := exists_trySized (α := SmbusPhysTransportHeader) h
  exact ⟨hdr, by rw [receiveBuf, FromBinary.tryFrom, hhdr]⟩

section Receive

variable (net : SimpleNetwork) (isOpen : ℕ → Bool) (id : UInt64) {buf : Bytes}

/-- A datagram that fits no flow changes nothing. -/
theorem callbackHandler_of_none (hpoison : net.flowsPoisoned = false)
    (h : net.firstFlow buf = none) : net.callbackHandler isOpen id buf = (.discarded, net) := by
  by_cases hlen : buf.length < 4
  · obtain ⟨e, he⟩ := receiveBuf_of_lt hlen
    rw [callbackHandler, he]
  · obtain ⟨hdr, hhdr⟩ := receiveBuf_of_le (Nat.le_of_not_lt hlen)
    obtain ⟨recvTag, htag⟩ := exists_createTag (buf.drop 4)
    rw [firstFlow, if_neg hlen, htag, Option.bind_some] at h
    simp only [callbackHandler, hhdr, htag, hpoison, Bool.false_eq_true, if_false,
      KeyedFifo.getElem?_findIdx, h]

/-- A datagram that fits a flow takes it off the list, and completes its call or, without a
receiver, panics and poisons the mutex. -/
theorem callbackHandler_of_some (hpoison : net.flowsPoisoned = false) {flow : MsgFlowTag × ℕ}
    (h : net.firstFlow buf = some flow) :
    ∃ recvTag, createTag (buf.drop 4) = some recvTag ∧
      net.flows.find? (matchesFlow recvTag) = some flow ∧
      net.callbackHandler isOpen id buf =
        if isOpen flow.2 then
          (.sent flow.2 (.receive (.extended 0 1 id 0) (buf.drop 4)),
            { net with flows := net.flows.eraseP (matchesFlow recvTag) })
        else
          (.panicked, { net with
            flows := net.flows.eraseP (matchesFlow recvTag), flowsPoisoned := true }) := by
  have hlen : ¬ buf.length < 4 := by
    intro hlt
    rw [firstFlow, if_pos hlt] at h
    cases h
  obtain ⟨hdr, hhdr⟩ := receiveBuf_of_le (Nat.le_of_not_lt hlen)
  obtain ⟨recvTag, htag⟩ := exists_createTag (buf.drop 4)
  rw [firstFlow, if_neg hlen, htag, Option.bind_some] at h
  refine ⟨recvTag, htag, h, ?_⟩
  simp only [callbackHandler, hhdr, htag, hpoison, Bool.false_eq_true, if_false,
    KeyedFifo.getElem?_findIdx, KeyedFifo.eraseIdx_findIdx, h]

/-- A datagram that fits a flow panics on the poisoned mutex. -/
theorem callbackHandler_of_poisoned (hpoison : net.flowsPoisoned = true)
    {flow : MsgFlowTag × ℕ} (h : net.firstFlow buf = some flow) :
    net.callbackHandler isOpen id buf = (.panicked, net) := by
  have hlen : ¬ buf.length < 4 := by
    intro hlt
    rw [firstFlow, if_pos hlt] at h
    cases h
  obtain ⟨hdr, hhdr⟩ := receiveBuf_of_le (Nat.le_of_not_lt hlen)
  obtain ⟨recvTag, htag⟩ := exists_createTag (buf.drop 4)
  simp only [callbackHandler, hhdr, htag, hpoison, if_true]

end Receive

end SimpleNetwork

end MctpEmu
