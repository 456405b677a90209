import MctpEmu.Endpoint.HandleRequest

/-!
# The requests of a bus owner

The three senders of `examples/basic_bus_owner_loop.rs` build a control packet from the counters of
the endpoint, hand it to the transmit task and decode what comes back. A sender is split here at
the hand-over: the packet and the counters afterwards, and the result of a delivery.

## Main definitions

* `MctpEndpointContext.newTransportHdr`, `MctpEndpointContext.sendSetEidRequest`,
  `MctpEndpointContext.sendGetEidRequest`, `MctpEndpointContext.sendAllocateEidsRequest`.
* `Delivery`, `sendAndDecode`: what comes back to a request, and what the sender makes of it.

## Main results

* `MctpEndpointContext.readRequest_newRequest`: a packet carries the request it was built from.
* `MctpEndpointContext.readRequest_sendSetEidRequest` and its siblings: what the three packets
  carry.
-/

namespace MctpEmu

namespace MctpEndpointContext

/-- `MctpEndpointContext::new_transport_hdr`; the counter wraps. -/
def newTransportHdr (ctx : MctpEndpointContext) (dstEid : UInt8) :
    TransportHeader × MctpEndpointContext :=
  (.new ctx.assignedEid dstEid ctx.nextMsgTag (some true) (some true) (some true),
    { ctx with nextMsgTag := ctx.nextMsgTag + 1 })

/-- What the senders share: the packet of a request, which starts with its control header. -/
def newRequest {α : Type} [FixedCodec α] (ctx : MctpEndpointContext) (dstEid : UInt8)
    (commandCode : CommandCode) (request : ControlMsgHeader → α) : Bytes × MctpEndpointContext :=
  let (transportHdr, ctx) := ctx.newTransportHdr dstEid
  let ctrlHdr := ControlMsgHeader.new commandCode ctx.nextInstanceId false true false
  let ctx := { ctx with nextInstanceId := ctx.nextInstanceId + 1 }
  let req := request ctrlHdr
  ((ControlPayload.new transportHdr ctrlHdr (FromControlPayload.intoBytes req)).intoBytes, ctx)

/-- `send_set_eid_request` up to the hand-over. -/
def sendSetEidRequest (ctx : MctpEndpointContext) (eid : UInt8) : Bytes × MctpEndpointContext :=
  ctx.newRequest 0 .setEndpointID fun ctrlHdr => SetEid.Request.new ctrlHdr .setEid eid

/-- `send_get_eid_request` up to the hand-over. -/
def sendGetEidRequest (ctx : MctpEndpointContext) (destEid : UInt8) :
    Bytes × MctpEndpointContext :=
  ctx.newRequest destEid .getEndpointID fun ctrlHdr => ({ hdr := ctrlHdr } : GetEid.Request)

/-- `send_allocate_eids_request` up to the hand-over. -/
def sendAllocateEidsRequest (ctx : MctpEndpointContext) (startingEid numberOfEids : UInt8) :
    Bytes × MctpEndpointContext :=
  ctx.newRequest 0 .allocateEndpointIDs fun ctrlHdr =>
    AllocateEids.Request.new ctrlHdr .allocateEids numberOfEids startingEid

end MctpEndpointContext

/-! ### Deliveries -/

/-- What comes back to a request. -/
inductive Delivery
  /-- The channel to the transmit task is closed. -/
  | unsent
  /-- The channel of the response is closed. -/
  | abandoned
  /-- An I/O error instead of a response. -/
  | failed (error : String)
  | response (bytes : Bytes)
deriving DecidableEq, Repr

/-- `Context::context` on a result that is already an `anyhow` one. -/
def Outcome.withContext {α : Type} (message : String) :
    Outcome AnyhowError α → Outcome AnyhowError α
  | .ok a => .ok a
  | .err e => .err (.context message e)
  | .panic message => .panic message

/-- What an outcome is with its value converted. -/
def Outcome.map {ε α β : Type} (f : α → β) : Outcome ε α → Outcome ε β
  | .ok a => .ok (f a)
  | .err e => .err e
  | .panic message => .panic message

theorem Outcome.map_eq_ok_iff {ε α β : Type} {f : α → β} {o : Outcome ε α} {b : β} :
    o.map f = .ok b ↔ ∃ a, o = .ok a ∧ f a = b := by
  cases o <;> simp [Outcome.map]

/-- `MctpEndpointContext::send_and_decode` after the hand-over; an I/O error is unwrapped. -/
def sendAndDecode (α : Type) [FixedCodec α] : Delivery → Outcome AnyhowError (ControlPayload × α)
  | .unsent => .err (.context "Failed sending GetEid cmd" (.msg "channel closed"))
  | .abandoned => .err (.context "Failed waiting for result" (.msg "channel closed"))
  | .failed _ => .panic "called Result::unwrap() on an Err value"
  | .response bytes =>
    match ControlPayload.tryToResponse α bytes with
    | .ok r => .ok r
    | .error e => .err e

/-- What the senders share after the hand-over: the response without its payload. -/
def receiveResponse (α : Type) [FixedCodec α] (message : String) (d : Delivery) :
    Outcome AnyhowError α :=
  match (sendAndDecode α d).withContext message with
  | .ok (_, response) => .ok response
  | .err e => .err e
  | .panic message => .panic message

/-- `send_set_eid_request` after the hand-over. -/
def receiveSetEid : Delivery → Outcome AnyhowError SetEid.Response :=
  receiveResponse SetEid.Response "Failed sending SetEid request"

/-- `send_get_eid_request` after the hand-over. -/
def receiveGetEid : Delivery → Outcome AnyhowError GetEid.Response :=
  receiveResponse GetEid.Response "Failed sending GetEid request"

/-- `send_allocate_eids_request` after the hand-over; the message is that of `GetEid`. -/
def receiveAllocateEids : Delivery → Outcome AnyhowError AllocateEids.Response :=
  receiveResponse AllocateEids.Response "Failed sending GetEid request"

/-- Only the bytes of a response give a response. -/
theorem receiveResponse_eq_ok_iff {α : Type} [FixedCodec α] {message : String} {d : Delivery}
    {response : α} : receiveResponse α message d = .ok response ↔
      ∃ bytes payload, d = .response bytes ∧
        ControlPayload.tryToResponse α bytes = .ok (payload, response) := by
  constructor
  · intro h
    cases d with
    | unsent | abandoned | failed => cases h
    | response bytes =>
      rw [receiveResponse, sendAndDecode] at h
      cases hread : ControlPayload.tryToResponse α bytes with
      | error e =>
        rw [hread] at h
        cases h
      | ok r =>
        rw [hread] at h
        cases h
        exact ⟨bytes, r.1, rfl, hread⟩
  · rintro ⟨bytes, payload, rfl, hread⟩
    rw [receiveResponse, sendAndDecode, hread]
    rfl

/-! ### Reading a request -/

namespace MctpEndpointContext

variable {α : Type} [FixedCodec α]

/-- The control header of a request. -/
def newControlHdr (ctx : MctpEndpointContext) (commandCode : CommandCode) : ControlMsgHeader :=
  .new commandCode ctx.nextInstanceId false true false

/-- The packet of a request is parsed to its headers and its bytes. -/
theorem tryFrom_newRequest (ctx : MctpEndpointContext) (dstEid : UInt8) (commandCode : CommandCode)
    {request : ControlMsgHeader → α}
    (h : ∀ hdr, ∃ rest, FixedCodec.encode (request hdr) = FixedCodec.encode hdr ++ rest) :
    ControlPayload.tryFrom (ctx.newRequest dstEid commandCode request).1 =
      .ok (.new (ctx.newTransportHdr dstEid).1 (ctx.newControlHdr commandCode)
        (FixedCodec.encode (request (ctx.newControlHdr commandCode)))) := by
  generalize hctrl : ctx.newControlHdr commandCode = ctrlHdr
  have hpacket : (ctx.newRequest dstEid commandCode request).1 =
      (ControlPayload.new (ctx.newTransportHdr dstEid).1 ctrlHdr
        (FixedCodec.encode (request ctrlHdr))).intoBytes := by
    rw [← hctrl]
    rfl
  rw [hpacket, ControlPayload.tryFrom_intoBytes_new_iff]
  obtain ⟨rest, hrest⟩ := h ctrlHdr
  have hlen : (FixedCodec.encode ctrlHdr).length = 3 := FixedCodec.length_encode ctrlHdr
  rw [hrest]
  refine ⟨by rw [List.length_append]; omega, ?_⟩
  rw [List.take_left' hlen]
  exact trySized_encode ctrlHdr

/-- A packet carries the request it was built from. -/
theorem readRequest_newRequest (ctx : MctpEndpointContext) (dstEid : UInt8)
    (commandCode : CommandCode) {request : ControlMsgHeader → α}
    (h : ∀ hdr, ∃ rest, FixedCodec.encode (request hdr) = FixedCodec.encode hdr ++ rest) :
    ∃ hdr, readRequest α commandCode (ctx.newRequest dstEid commandCode request).1 =
      some (request hdr) := by
  refine ⟨ctx.newControlHdr commandCode, ?_⟩
  rw [readRequest, ctx.tryFrom_newRequest dstEid commandCode h]
  simp only [ControlPayload.new, newControlHdr, ControlMsgHeader.commandCode_new, if_true,
    FromControlPayload.tryFromControlPayload, trySized_encode, Except.toOption]

/-- A packet carries no request of another command. -/
theorem readRequest_newRequest_of_ne (ctx : MctpEndpointContext) (dstEid : UInt8)
    (commandCode commandCode' : CommandCode) (hne : commandCode ≠ commandCode')
    {request : ControlMsgHeader → α}
    (h : ∀ hdr, ∃ rest, FixedCodec.encode (request hdr) = FixedCodec.encode hdr ++ rest)
    (β : Type) [FixedCodec β] :
    readRequest β commandCode' (ctx.newRequest dstEid commandCode request).1 = none := by
  rw [readRequest, ctx.tryFrom_newRequest dstEid commandCode h]
  exact if_neg hne

/-! ### The three packets -/

theorem exists_encode_setEid (eid : UInt8) (hdr : ControlMsgHeader) :
    ∃ rest, FixedCodec.encode (SetEid.Request.new hdr .setEid eid) =
      FixedCodec.encode hdr ++ rest :=
  ⟨_, rfl⟩

theorem exists_encode_getEid (hdr : ControlMsgHeader) :
    ∃ rest, FixedCodec.encode ({ hdr } : GetEid.Request) = FixedCodec.encode hdr ++ rest :=
  ⟨[], (List.append_nil _).symm⟩

theorem exists_encode_allocateEids (numberOfEids startingEid : UInt8) (hdr : ControlMsgHeader) :
    ∃ rest, FixedCodec.encode (AllocateEids.Request.new hdr .allocateEids numberOfEids
      startingEid) = FixedCodec.encode hdr ++ rest :=
  ⟨_, rfl⟩

/-- A Set Endpoint ID packet carries the EID that is assigned. -/
theorem readRequest_sendSetEidRequest (ctx : MctpEndpointContext) (eid : UInt8) :
    ∃ req, readRequest SetEid.Request .setEndpointID (ctx.sendSetEidRequest eid).1 = some req ∧
      req.eid = eid := by
  obtain ⟨hdr, hread⟩ := ctx.readRequest_newRequest 0 .setEndpointID (exists_encode_setEid eid)
  exact ⟨_, hread, rfl⟩

/-- An Allocate Endpoint IDs packet carries the range that is allocated, and no assignment. -/
theorem readRequest_sendAllocateEidsRequest (ctx : MctpEndpointContext)
    (startingEid numberOfEids : UInt8) :
    readRequest SetEid.Request .setEndpointID
        (ctx.sendAllocateEidsRequest startingEid numberOfEids).1 = none ∧
      ∃ req, readRequest AllocateEids.Request .allocateEndpointIDs
          (ctx.sendAllocateEidsRequest startingEid numberOfEids).1 = some req ∧
        req.startingEid = startingEid ∧ req.numberOfEids = numberOfEids := by
  have hencode := exists_encode_allocateEids numberOfEids startingEid
  obtain ⟨hdr, hread⟩ := ctx.readRequest_newRequest 0 .allocateEndpointIDs hencode
  exact ⟨ctx.readRequest_newRequest_of_ne 0 .allocateEndpointIDs .setEndpointID nofun hencode _, _,
    hread, rfl, rfl⟩

/-- A Set Endpoint ID packet carries no range. -/
theorem readRequest_allocateEids_sendSetEidRequest (ctx : MctpEndpointContext) (eid : UInt8) :
    readRequest AllocateEids.Request .allocateEndpointIDs (ctx.sendSetEidRequest eid).1 = none :=
  ctx.readRequest_newRequest_of_ne 0 .setEndpointID .allocateEndpointIDs nofun
    (exists_encode_setEid eid) AllocateEids.Request

/-- A Get Endpoint ID packet carries neither an assignment nor a range. -/
theorem readRequest_sendGetEidRequest (ctx : MctpEndpointContext) (destEid : UInt8) :
    readRequest SetEid.Request .setEndpointID (ctx.sendGetEidRequest destEid).1 = none ∧
      readRequest AllocateEids.Request .allocateEndpointIDs (ctx.sendGetEidRequest destEid).1 =
        none :=
  ⟨ctx.readRequest_newRequest_of_ne destEid .getEndpointID .setEndpointID nofun
      exists_encode_getEid _,
    ctx.readRequest_newRequest_of_ne destEid .getEndpointID .allocateEndpointIDs nofun
      exists_encode_getEid _⟩

end MctpEndpointContext

end MctpEmu
