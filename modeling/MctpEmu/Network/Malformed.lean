import MctpEmu.Network.SimpleNetwork

/-!
# Datagrams that are not MCTP packets

The receive loop of a network decodes the SMBus header of a datagram and takes a tag from the bytes
behind it. It does not look at the command code, and where the transport header is not whole, the
tag is the default one. The transport task in `examples/basic_bus_owner_loop.rs` skips what has
another command code.

## Main definitions

* `IsMctpPacket`: an SMBus header with the command code of MCTP, and a transport header.
* `SimpleNetwork.CompletesPacketsOnly`: a datagram that is not a packet does nothing.
* `SimpleNetwork.TakenFor`: the flows that a datagram is taken for a response to.

## Main results

* `SimpleNetwork.matchesFlow_iff_takenFor`: the comparison of the receive loop, on the bytes of the
  datagram.
* `SimpleNetwork.completesPacketsOnly_iff`: when a datagram that is not a packet does nothing.
-/

namespace MctpEmu

/-- A datagram with the command code of MCTP, long enough for both headers. -/
def IsMctpPacket (buf : Bytes) : Prop := 8 ≤ buf.length ∧ buf[1]? = some smbusCommandCodeMctp

namespace SimpleNetwork

/-- Only a packet completes a flow, and a datagram that is not a packet leaves the flows as they
were and wakes no call. -/
structure CompletesPacketsOnly (net : SimpleNetwork) (isOpen : ℕ → Bool) (id : UInt64)
    (buf : Bytes) : Prop where
  completes : ∀ channel response,
    (net.callbackHandler isOpen id buf).1 = .sent channel response → IsMctpPacket buf
  ignores : ¬ IsMctpPacket buf → (net.callbackHandler isOpen id buf).2.flows = net.flows ∧
    ∀ channel response, (net.callbackHandler isOpen id buf).1 ≠ .sent channel response

/-- The flows that a datagram with a whole SMBus header is taken for a response to, by the source
endpoint and the flag byte of its transport header. A datagram that ends within this header is
taken for a response of the endpoint 0 with tag 0. -/
def TakenFor (buf : Bytes) (tag : MsgFlowTag) : Prop :=
  if buf.length < 8 then tag.destEid = 0 ∧ tag.msgTag = 0 ∧ tag.tagOwner = true
  else buf[6]? = some tag.destEid ∧ ∃ flags, buf[7]? = some flags ∧
    tag.msgTag = BitField.lowBits 3 flags ∧ tag.tagOwner = !BitField.testBit flags 3

/-! ### The comparison on the bytes -/

/-- The tag of a packet, from the bytes of its transport header. -/
theorem createTag_cons (b₀ b₁ b₂ b₃ : UInt8) (rest : Bytes) :
    createTag (b₀ :: b₁ :: b₂ :: b₃ :: rest) =
      some ⟨b₁, b₂, BitField.lowBits 3 b₃, BitField.testBit b₃ 3⟩ := by
  have htag := createTag_intoBytes ⟨#v[b₀], b₁, b₂, #v[b₃]⟩ rest
  have hmsgTag : TransportHeader.msgTag ⟨#v[b₀], b₁, b₂, #v[b₃]⟩ = BitField.lowBits 3 b₃ :=
    BitField.getField_zero #v[b₃] (by decide) 2
  have howner : (TransportHeader.tagOwner ⟨#v[b₀], b₁, b₂, #v[b₃]⟩ != 0) =
      BitField.testBit b₃ 3 := by
    rw [TransportHeader.tagOwner, BitField.getField_self, bne, BitField.toUInt8_beq_zero,
      Bool.not_not]
    exact BitField.bit_eq_testBit_getElem_zero #v[b₃] (by decide)
  rw [hmsgTag, howner] at htag
  exact htag

/-- A flow fits a datagram exactly when the datagram is taken for a response to it. -/
theorem matchesFlow_iff_takenFor {buf : Bytes} {recvTag : MsgFlowTag}
    (h : createTag (buf.drop 4) = some recvTag) (flow : MsgFlowTag × ℕ) :
    matchesFlow recvTag flow = true ↔ TakenFor buf flow.1 := by
  rw [matchesFlow_eq_true_iff]
  by_cases hlen : buf.length < 8
  · have hshort : (buf.drop 4).length < 4 := by
      rw [List.length_drop]
      omega
    rw [createTag_of_lt hshort] at h
    obtain rfl := Option.some.inj h
    rw [TakenFor, if_pos hlen]
    exact Iff.rfl
  · have hlong : 4 ≤ (buf.drop 4).length := by
      rw [List.length_drop]
      omega
    obtain ⟨hdr, rest, hdrop⟩ := exists_eq_intoBytes_append hlong
    obtain ⟨b₀, b₁, b₂, b₃, rfl⟩ := hdr.exists_eq_mk
    replace hdrop : buf.drop 4 = b₀ :: b₁ :: b₂ :: b₃ :: rest := hdrop
    have hget (i : ℕ) : buf[4 + i]? = (b₀ :: b₁ :: b₂ :: b₃ :: rest)[i]? := by
      rw [← List.getElem?_drop, hdrop]
    have hsrc : buf[6]? = some b₂ := hget 2
    have hflags : buf[7]? = some b₃ := hget 3
    rw [hdrop, createTag_cons] at h
    obtain rfl := Option.some.inj h
    rw [TakenFor, if_neg hlen, hsrc, hflags, Option.some.injEq, eq_comm]
    exact and_congr_right fun _ => by simp only [Option.some.injEq, exists_eq_left']

section

variable (net : SimpleNetwork) (isOpen : ℕ → Bool) (id : UInt64) {buf : Bytes}

/-- A datagram is matched with a flow as soon as it has an SMBus header and is taken for a response
to one. -/
theorem firstFlow_eq_none_iff :
    net.firstFlow buf = none ↔ buf.length < 4 ∨ ∀ flow ∈ net.flows, ¬ TakenFor buf flow.1 := by
  by_cases hlen : buf.length < 4
  · rw [firstFlow, if_pos hlen]
    exact iff_of_true rfl (.inl hlen)
  · obtain ⟨recvTag, htag⟩ := exists_createTag (buf.drop 4)
    rw [firstFlow, if_neg hlen, htag, Option.bind_some, List.find?_eq_none]
    simp only [matchesFlow_iff_takenFor htag, hlen, false_or]

theorem callbackHandler_of_flowsPoisoned (h : net.flowsPoisoned = true) :
    (net.callbackHandler isOpen id buf).2 = net ∧
      ∀ channel response, (net.callbackHandler isOpen id buf).1 ≠ .sent channel response := by
  have hcases : net.callbackHandler isOpen id buf = (.discarded, net) ∨
      net.callbackHandler isOpen id buf = (.panicked, net) := by
    unfold callbackHandler
    cases receiveBuf buf with
    | error e => exact .inl rfl
    | ok r =>
      obtain ⟨recvTag, htag⟩ := exists_createTag r.2
      simp only [htag, if_pos h, or_true]
  rcases hcases with heq | heq
  · rw [heq]
    exact ⟨rfl, fun _ _ => Handled.noConfusion⟩
  · rw [heq]
    exact ⟨rfl, fun _ _ => Handled.noConfusion⟩

/-- A datagram that is matched with a flow takes one off the list. -/
theorem length_flows_callbackHandler (hpoison : net.flowsPoisoned = false)
    (h : net.firstFlow buf ≠ none) :
    (net.callbackHandler isOpen id buf).2.flows.length + 1 = net.flows.length := by
  obtain ⟨flow, hflow⟩ := Option.ne_none_iff_exists'.mp h
  obtain ⟨recvTag, -, hfind, hhandle⟩ :=
    callbackHandler_of_some net isOpen id hpoison hflow
  obtain ⟨-, pre, post, hsplit, -, herase⟩ := KeyedFifo.exists_split_of_find? hfind
  have hflows : (net.callbackHandler isOpen id buf).2.flows = pre ++ post := by
    rw [hhandle]
    split_ifs
    · exact herase
    · exact herase
  rw [hflows, hsplit, List.length_append, List.length_append, List.length_cons, Nat.add_assoc]

end

/-- A datagram that is not a packet does nothing exactly when it has no whole SMBus header, the
mutex is poisoned, or it is taken for a response to none of the flows. -/
theorem completesPacketsOnly_iff (net : SimpleNetwork) (isOpen : ℕ → Bool) (id : UInt64)
    (buf : Bytes) :
    CompletesPacketsOnly net isOpen id buf ↔
      IsMctpPacket buf ∨ buf.length < 4 ∨ net.flowsPoisoned = true ∨
        ∀ flow ∈ net.flows, ¬ TakenFor buf flow.1 := by
  constructor
  · intro h
    by_contra hcond
    simp only [not_or, Bool.not_eq_true] at hcond
    obtain ⟨hpacket, hlen, hpoison, htaken⟩ := hcond
    have hfirst : net.firstFlow buf ≠ none := fun hnone =>
      ((firstFlow_eq_none_iff net).mp hnone).elim hlen htaken
    have hlost := length_flows_callbackHandler net isOpen id hpoison hfirst
    rw [(h.ignores hpacket).1] at hlost
    omega
  · intro h
    by_cases hpacket : IsMctpPacket buf
    · exact ⟨fun _ _ _ => hpacket, fun hnot => absurd hpacket hnot⟩
    have hquiet : (net.callbackHandler isOpen id buf).2 = net ∧
        ∀ channel response, (net.callbackHandler isOpen id buf).1 ≠ .sent channel response := by
      cases hpoison : net.flowsPoisoned with
      | true => exact callbackHandler_of_flowsPoisoned net isOpen id hpoison
      | false =>
        have hnone : net.firstFlow buf = none := by
          rw [firstFlow_eq_none_iff]
          rw [hpoison] at h
          simpa only [hpacket, Bool.false_eq_true, false_or] using h
        rw [callbackHandler_of_none net isOpen id hpoison hnone]
        exact ⟨rfl, fun _ _ => Handled.noConfusion⟩
    exact ⟨fun channel response hsent => absurd hsent (hquiet.2 channel response),
      fun _ => ⟨congrArg flows hquiet.1, hquiet.2⟩⟩

/-- A request to the endpoint 0 is in flight. -/
def sampleInFlight : SimpleNetwork where
  clients := fun _ => none
  numClients := 1
  physBindings := .default
  flows := [(⟨0, 8, 0, true⟩, 0)]
  flowsPoisoned := false

/-- Four bytes complete it, and so does a packet with the command code `0x0E`. -/
theorem not_completesPacketsOnly :
    ¬ CompletesPacketsOnly sampleInFlight (fun _ => true) 1 [0x21, 0x0F, 0x05, 0x60] ∧
    ¬ CompletesPacketsOnly sampleInFlight (fun _ => true) 1
      [0x21, 0x0E, 0x05, 0x60, 0x01, 0x08, 0x00, 0xC0] := by
  have hshort : (sampleInFlight.callbackHandler (fun _ => true) 1 [0x21, 0x0F, 0x05, 0x60]).1 =
      .sent 0 (.receive (.extended 0 1 1 0) []) := rfl
  have hother : (sampleInFlight.callbackHandler (fun _ => true) 1
      [0x21, 0x0E, 0x05, 0x60, 0x01, 0x08, 0x00, 0xC0]).1 =
      .sent 0 (.receive (.extended 0 1 1 0) [0x01, 0x08, 0x00, 0xC0]) := rfl
  constructor
  · intro h
    exact absurd (h.completes _ _ hshort).1 (by decide)
  · intro h
    exact absurd (h.completes _ _ hother).2 (by decide)

end SimpleNetwork

end MctpEmu
