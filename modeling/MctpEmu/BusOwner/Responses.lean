import MctpEmu.BusOwner.Requests

/-!
# The responses of a bus owner

Each sender of the bus owner decodes what comes back at one response type, which is wider than the
reply to an unsupported command. The three senders are put side by side here, and their packets
are passed to the responder of another endpoint.

## Main definitions

* `BusOwner.Request`, `BusOwner.Response`: the three requests and their responses.
* `BusOwner.Request.send`, `BusOwner.Request.tryToResponse`: the two halves of a sender.
* `BusOwner.DecodesReply`: the requester decodes what the responder answered.

## Main results

* `BusOwner.Request.exists_send_eq`: the packet of a request, byte by byte.
* `BusOwner.decodesReply_iff`: the requests whose replies are decoded.
-/

namespace MctpEmu

/-- The packet of a request, byte by byte. -/
theorem MctpEndpointContext.exists_newRequest_eq {α : Type} [FixedCodec α]
    (ctx : MctpEndpointContext) (dstEid : UInt8) (commandCode : CommandCode)
    {request : ControlMsgHeader → α} {rest : Bytes}
    (h : ∀ hdr, FixedCodec.encode (request hdr) = FixedCodec.encode hdr ++ rest) :
    ∃ b₀ b₁ b₂ b₃ b₄ b₅, (ctx.newRequest dstEid commandCode request).1 =
      b₀ :: b₁ :: b₂ :: b₃ :: b₄ :: b₅ :: commandCode.toU8 :: rest := by
  obtain ⟨b₀, b₁, b₂, b₃, hhdr⟩ := (ctx.newTransportHdr dstEid).1.exists_eq_mk
  obtain ⟨b₄, b₅, c, hctrl⟩ :=
    (ControlMsgHeader.new commandCode ctx.nextInstanceId false true false).exists_eq_mk
  obtain rfl : commandCode = c := congrArg ControlMsgHeader.commandCode hctrl
  refine ⟨b₀, b₁, b₂, b₃, b₄, b₅, ?_⟩
  change (ControlPayload.new (ctx.newTransportHdr dstEid).1
    (ControlMsgHeader.new commandCode ctx.nextInstanceId false true false)
    (FixedCodec.encode (request (ControlMsgHeader.new commandCode ctx.nextInstanceId false true
      false)))).intoBytes = _
  rw [h, hhdr, hctrl, ControlPayload.intoBytes_new]
  rfl

namespace BusOwner

/-- The requests that a bus owner sends. -/
inductive Request
  | getEid (destEid : UInt8)
  | setEid (eid : UInt8)
  | allocateEids (startingEid numberOfEids : UInt8)
deriving DecidableEq, Repr

/-- The responses that a bus owner decodes. -/
inductive Response
  | getEid (response : GetEid.Response)
  | setEid (response : SetEid.Response)
  | allocateEids (response : AllocateEids.Response)
deriving DecidableEq, Repr

namespace Response

def hdr : Response → ControlMsgHeader
  | getEid response => response.hdr
  | setEid response => response.hdr
  | allocateEids response => response.hdr

def completionCode : Response → UInt8
  | getEid response => response.completionCode
  | setEid response => response.completionCode
  | allocateEids response => response.completionCode

end Response

namespace Request

/-- The sender of a request, up to the hand-over. -/
def send (q : Request) (ctx : MctpEndpointContext) : Bytes × MctpEndpointContext :=
  match q with
  | getEid destEid => ctx.sendGetEidRequest destEid
  | setEid eid => ctx.sendSetEidRequest eid
  | allocateEids startingEid numberOfEids =>
    ctx.sendAllocateEidsRequest startingEid numberOfEids

/-- `ControlPayload::try_to_response` at the response type of the sender. -/
def tryToResponse (q : Request) (bytes : Bytes) :
    Except AnyhowError (ControlPayload × Response) :=
  match q with
  | getEid _ => (ControlPayload.tryToResponse GetEid.Response bytes).map
      fun r => (r.1, .getEid r.2)
  | setEid _ => (ControlPayload.tryToResponse SetEid.Response bytes).map
      fun r => (r.1, .setEid r.2)
  | allocateEids _ _ => (ControlPayload.tryToResponse AllocateEids.Response bytes).map
      fun r => (r.1, .allocateEids r.2)

/-- The sender of a request after the hand-over. -/
def receive (q : Request) (d : Delivery) : Outcome AnyhowError Response :=
  match q with
  | getEid _ => (receiveGetEid d).map .getEid
  | setEid _ => (receiveSetEid d).map .setEid
  | allocateEids _ _ => (receiveAllocateEids d).map .allocateEids

/-- The endpoint that a request is addressed to. -/
def destEid : Request → UInt8
  | getEid destEid => destEid
  | setEid _ => 0
  | allocateEids _ _ => 0

/-- The command of a request. -/
def commandCode : Request → CommandCode
  | getEid _ => .getEndpointID
  | setEid _ => .setEndpointID
  | allocateEids _ _ => .allocateEndpointIDs

/-- The bytes of a request behind its control header. -/
def body : Request → Bytes
  | getEid _ => []
  | setEid eid => [0, eid]
  | allocateEids startingEid numberOfEids => [0, numberOfEids, startingEid]

/-- A request has the transport header, the control header and the body of its sender. -/
theorem exists_send_eq (q : Request) (ctx : MctpEndpointContext) :
    ∃ b₀ b₁ b₂ b₃ b₄ b₅, (q.send ctx).1 =
      b₀ :: b₁ :: b₂ :: b₃ :: b₄ :: b₅ :: q.commandCode.toU8 :: q.body := by
  have hzero : BitField.setField (.replicate 1 0) 0 1 0 = (#v[0] : Vector UInt8 1) := by decide
  cases q with
  | getEid destEid =>
    exact ctx.exists_newRequest_eq destEid .getEndpointID fun hdr => (List.append_nil _).symm
  | setEid eid =>
    refine ctx.exists_newRequest_eq 0 .setEndpointID fun hdr => ?_
    simp only [SetEid.Request.new, SetEid.Operation.toU8, hzero]
    rfl
  | allocateEids startingEid numberOfEids =>
    refine ctx.exists_newRequest_eq 0 .allocateEndpointIDs fun hdr => ?_
    simp only [AllocateEids.Request.new, AllocateEids.Operation.toU8, hzero]
    rfl

/-- Only the bytes of a response give a response, for the senders of all requests alike. -/
theorem map_receiveResponse_eq_ok_iff {α : Type} [FixedCodec α] {message : String}
    {f : α → Response} {d : Delivery} {response : Response} :
    (receiveResponse α message d).map f = .ok response ↔
      ∃ bytes payload, d = .response bytes ∧
        (ControlPayload.tryToResponse α bytes).map (fun r => (r.1, f r.2)) =
          .ok (payload, response) := by
  simp only [Outcome.map_eq_ok_iff, receiveResponse_eq_ok_iff]
  constructor
  · rintro ⟨a, ⟨bytes, payload, rfl, hread⟩, rfl⟩
    exact ⟨bytes, payload, rfl, by rw [hread]; rfl⟩
  · rintro ⟨bytes, payload, rfl, hread⟩
    cases hraw : ControlPayload.tryToResponse α bytes with
    | error e =>
      rw [hraw] at hread
      cases hread
    | ok r =>
      rw [hraw] at hread
      cases hread
      exact ⟨r.2, ⟨bytes, r.1, rfl, hraw⟩, rfl⟩

theorem receive_eq_ok_iff {q : Request} {d : Delivery} {response : Response} :
    q.receive d = .ok response ↔
      ∃ bytes payload, d = .response bytes ∧
        q.tryToResponse bytes = .ok (payload, response) := by
  cases q with
  | getEid => exact map_receiveResponse_eq_ok_iff
  | setEid => exact map_receiveResponse_eq_ok_iff
  | allocateEids => exact map_receiveResponse_eq_ok_iff

/-- The three responses have the same size. -/
theorem exists_tryToResponse_iff (q : Request) (bytes : Bytes) :
    (∃ r, q.tryToResponse bytes = .ok r) ↔ 11 ≤ bytes.length := by
  have hsize (α : Type) [FixedCodec α] (hsize : FixedCodec.size α = 7) (f : α → Response) :
      (∃ r, (ControlPayload.tryToResponse α bytes).map (fun r => (r.1, f r.2)) = .ok r) ↔
        11 ≤ bytes.length := by
    have hiff := ControlPayload.exists_tryToResponse_iff α bytes
    rw [hsize] at hiff
    cases hraw : ControlPayload.tryToResponse α bytes with
    | error e =>
      refine iff_of_false (fun ⟨r, hr⟩ => by cases hr) fun hle => ?_
      obtain ⟨r, hr⟩ := hiff.mpr (by omega)
      cases hraw.symm.trans hr
    | ok r =>
      have hle := hiff.mp ⟨r, hraw⟩
      exact iff_of_true ⟨_, rfl⟩ hle.2
  cases q with
  | getEid => exact hsize GetEid.Response rfl .getEid
  | setEid => exact hsize SetEid.Response rfl .setEid
  | allocateEids => exact hsize AllocateEids.Response rfl .allocateEids

end Request

/-- The requester decodes the reply to its request to a response with the completion code that the
responder wrote, and with the instance id and the command of the request, not marked as a
request. -/
def DecodesReply (q : Request) (requester responder : MctpEndpointContext) : Prop :=
  ∃ request reply payload resp,
    ControlPayload.tryFrom (q.send requester).1 = .ok request ∧
    (responder.handleRequest (q.send requester).1).1 = .ok reply ∧
    q.tryToResponse reply = .ok (payload, resp) ∧
    reply[7]? = some resp.completionCode ∧
    resp.hdr.instanceId = request.controlHdr.instanceId ∧
    resp.hdr.commandCode = request.controlHdr.commandCode ∧ resp.hdr.rq = 0

/-- A reply whose bytes behind the transport header are read as a response of the sender, behind
the control header of the reply, is decoded. -/
theorem decodesReply_of_reply {q : Request} {requester responder : MctpEndpointContext}
    {b₀ b₁ b₂ b₃ b₄ b₅ b₆ : UInt8} {rest body : Bytes} {completionCode : CompletionCode}
    {resp : Response} {payload : ControlPayload}
    (hsend : (q.send requester).1 = b₀ :: b₁ :: b₂ :: b₃ :: b₄ :: b₅ :: b₆ :: rest)
    (hreply : (responder.handleRequest (q.send requester).1).1 =
      .ok (MctpEndpointContext.replyHead b₁ b₂ b₃ b₄ b₅ b₆ completionCode ++ body))
    (hread : q.tryToResponse (MctpEndpointContext.replyHead b₁ b₂ b₃ b₄ b₅ b₆ completionCode ++
      body) = .ok (payload, resp))
    (hhdr : resp.hdr = (⟨#v[b₄, b₅], .fromU8 b₆⟩ : ControlMsgHeader).setRq 0)
    (hcode : resp.completionCode = completionCode.toU8) :
    DecodesReply q requester responder := by
  refine ⟨⟨⟨#v[b₀], b₁, b₂, #v[b₃]⟩, ⟨#v[b₄, b₅], .fromU8 b₆⟩, b₄ :: b₅ :: b₆ :: rest⟩, _, payload,
    resp, ?_, hreply, hread, ?_, ?_, ?_, ?_⟩
  · rw [hsend, ControlPayload.tryFrom_cons]
  · rw [hcode]
    rfl
  · rw [hhdr, ControlMsgHeader.instanceId_setRq]
  · rw [hhdr, ControlMsgHeader.commandCode_setRq]
  · rw [hhdr, ControlMsgHeader.rq_setRq_zero]

/-- An Allocate Endpoint IDs request is answered as unsupported, in fewer bytes than its response
has. -/
theorem not_decodesReply_allocateEids (startingEid numberOfEids : UInt8)
    (requester responder : MctpEndpointContext) :
    ¬ DecodesReply (.allocateEids startingEid numberOfEids) requester responder := by
  obtain ⟨b₀, b₁, b₂, b₃, b₄, b₅, hsend⟩ :=
    (Request.allocateEids startingEid numberOfEids).exists_send_eq requester
  rintro ⟨request, reply, payload, resp, -, hreply, hread, -⟩
  have hle : (0x08 : UInt8) ≤ 0x14 := by decide
  have hother : (0x08 : UInt8) ∉ MctpEndpointContext.implementedCommands := by decide
  have hshort := MctpEndpointContext.handleRequest_unsupported responder b₀ b₁ b₂ b₃ b₄ b₅
    [0, numberOfEids, startingEid] hle hother
  rw [hsend] at hreply
  change (responder.handleRequest (b₀ :: b₁ :: b₂ :: b₃ :: b₄ :: b₅ :: 0x08 ::
    [0, numberOfEids, startingEid])).1 = .ok reply at hreply
  rw [hshort] at hreply
  obtain rfl := Outcome.ok.inj hreply
  -- Eight bytes, of which an Allocate Endpoint IDs response needs eleven.
  cases hread

/-- Replies are decoded, except for the reply to an Allocate Endpoint IDs request. -/
theorem decodesReply_iff (q : Request) (requester responder : MctpEndpointContext) :
    DecodesReply q requester responder ↔
      ∀ startingEid numberOfEids, q ≠ .allocateEids startingEid numberOfEids := by
  obtain ⟨b₀, b₁, b₂, b₃, b₄, b₅, hsend⟩ := q.exists_send_eq requester
  have hhdr (c : CommandCode) := (ControlMsgHeader.setRq_zero_mk b₄ b₅ c).symm
  cases q with
  | getEid destEid =>
    refine iff_of_true ?_ (fun _ _ h => Request.noConfusion h)
    let resp : GetEid.Response :=
      ⟨⟨#v[b₄, b₅ &&& (0x7F : UInt8)], .getEndpointID⟩, 0, 0, #v[0], 0⟩
    have hresp : trySized GetEid.Response (b₄ :: (b₅ &&& (0x7F : UInt8)) :: 0x02 ::
        CompletionCode.success.toU8 :: [0, 0, 0]) = .ok resp := rfl
    obtain ⟨payload, hread, -⟩ :=
      MctpEndpointContext.exists_tryToResponse_reply b₁ b₂ b₃ b₄ b₅ 0x02 .success _ hresp
    have hreply : (responder.handleRequest ((Request.getEid destEid).send requester).1).1 =
        .ok (MctpEndpointContext.replyHead b₁ b₂ b₃ b₄ b₅ 0x02 .success ++ [0, 0, 0]) := by
      rw [hsend]
      exact congrArg Prod.fst (MctpEndpointContext.handleRequest_getEndpointID ..)
    have hdecode : (Request.getEid destEid).tryToResponse (MctpEndpointContext.replyHead b₁ b₂ b₃ b₄
        b₅ 0x02 .success ++ [0, 0, 0]) = .ok (payload, .getEid resp) := by
      rw [Request.tryToResponse, hread]
      rfl
    exact decodesReply_of_reply hsend hreply hdecode (hhdr .getEndpointID) rfl
  | setEid eid =>
    refine iff_of_true ?_ (fun _ _ h => Request.noConfusion h)
    let resp : SetEid.Response :=
      ⟨⟨#v[b₄, b₅ &&& (0x7F : UInt8)], .setEndpointID⟩, 0, #v[0], eid, 0⟩
    have hresp : trySized SetEid.Response (b₄ :: (b₅ &&& (0x7F : UInt8)) :: 0x01 ::
        CompletionCode.success.toU8 :: [0, eid, 0]) = .ok resp := rfl
    obtain ⟨payload, hread, -⟩ :=
      MctpEndpointContext.exists_tryToResponse_reply b₁ b₂ b₃ b₄ b₅ 0x01 .success _ hresp
    have hreply : (responder.handleRequest ((Request.setEid eid).send requester).1).1 =
        .ok (MctpEndpointContext.replyHead b₁ b₂ b₃ b₄ b₅ 0x01 .success ++ [0, eid, 0]) := by
      rw [hsend]
      exact congrArg Prod.fst (MctpEndpointContext.handleRequest_setEndpointID ..)
    have hdecode : (Request.setEid eid).tryToResponse (MctpEndpointContext.replyHead b₁ b₂ b₃ b₄ b₅
        0x01 .success ++ [0, eid, 0]) = .ok (payload, .setEid resp) := by
      rw [Request.tryToResponse, hread]
      rfl
    exact decodesReply_of_reply hsend hreply hdecode (hhdr .setEndpointID) rfl
  | allocateEids startingEid numberOfEids =>
    refine iff_of_false ?_ (fun h => h startingEid numberOfEids rfl)
    exact not_decodesReply_allocateEids startingEid numberOfEids requester responder

/-- The bus owner cannot tell that Allocate Endpoint IDs is unsupported. -/
theorem not_decodesReply : ¬ ∀ q requester responder, DecodesReply q requester responder :=
  fun h => not_decodesReply_allocateEids 0x80 16 ⟨0x08, false, 0x80, 32, 1, 1⟩
    ⟨0, false, 0x80, 32, 1, 1⟩ (h _ _ _)

end BusOwner

end MctpEmu
