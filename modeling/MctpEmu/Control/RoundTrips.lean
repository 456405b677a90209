import MctpEmu.Control.WireFormats

/-!
# Exchanges of control messages

A requester builds a request and packs it behind a transport header; the responder reads it, builds
its response from it, and packs this behind the header of a response; the requester reads that. Both
packets may come with bytes behind them, such as a packet error code. What one side puts into a
message is what the other side reads of it.

## Main definitions

* `CommandExchange`: a request and its response, with the arguments of their constructors.
* `CommandExchange.ReadsRequest`, `CommandExchange.ReadsResponse`: the accessors give the arguments.
* `AnswersPacket`: the headers of a response answer those of its request.

## Main results

* `ControlPayload.tryFrom_new_append`: a packed message is parsed into its headers and itself.
* `CommandExchange.reads_back`: the whole exchange.
-/

namespace MctpEmu

open FixedCodec BitField

/-- The control header of a message. -/
def ControlMessage.hdr : (m : ControlMessage) → m.Carrier → ControlMsgHeader
  | emptyRequest, x => EmptyRequest.hdr x
  | emptyResponse, x => EmptyResponse.hdr x
  | setEidRequest, x => SetEid.Request.hdr x
  | setEidResponse, x => SetEid.Response.hdr x
  | getEidRequest, x => GetEid.Request.hdr x
  | getEidResponse, x => GetEid.Response.hdr x
  | allocateEidsRequest, x => AllocateEids.Request.hdr x
  | allocateEidsResponse, x => AllocateEids.Response.hdr x
  | getRoutingTableRequest, x => GetRoutingTable.Request.hdr x
  | getRoutingTableResponse, x => GetRoutingTable.Response.hdr x

/-- A message starts with its control header. -/
theorem ControlMessage.exists_encode_eq (m : ControlMessage) (x : m.Carrier) :
    ∃ body, encode x = encode (m.hdr x) ++ body := by
  cases m with
  | emptyRequest | getEidRequest => exact ⟨[], (List.append_nil _).symm⟩
  | _ => exact ⟨_, rfl⟩

/-- Headers are parsed as they were written. -/
theorem ControlPayload.tryFrom_encode_append (h : TransportHeader) (c : ControlMsgHeader)
    (rest : Bytes) :
    tryFrom (encode h ++ (encode c ++ rest)) = .ok ⟨h, c, encode c ++ rest⟩ := by
  obtain ⟨b₀, b₁, b₂, b₃, rfl⟩ := h.exists_eq_mk
  obtain ⟨b₄, b₅, cmd, rfl⟩ := c.exists_eq_mk
  have hparse := tryFrom_cons b₀ b₁ b₂ b₃ b₄ b₅ cmd.toU8 rest
  rw [CommandCode.fromU8_toU8] at hparse
  exact hparse

/-- A packed message is parsed into its headers, with the message and what follows it as the
payload, whatever control header it was packed with. -/
theorem ControlPayload.tryFrom_new_append (m : ControlMessage) (h : TransportHeader)
    (c : ControlMsgHeader) (x : m.Carrier) (rest : Bytes) :
    tryFrom ((new h c (FromControlPayload.intoBytes x)).intoBytes ++ rest) =
      .ok ⟨h, m.hdr x, encode x ++ rest⟩ := by
  obtain ⟨body, hbody⟩ := m.exists_encode_eq x
  have hbytes : (new h c (FromControlPayload.intoBytes x)).intoBytes ++ rest =
      encode h ++ (encode (m.hdr x) ++ (body ++ rest)) := by
    rw [← List.append_assoc (encode (m.hdr x)), ← hbody, ← List.append_assoc]
    rfl
  rw [hbytes, tryFrom_encode_append, ← List.append_assoc, ← hbody]

/-! ### Exchanges -/

/-- A request with a control header, and the response to it, with the arguments that their
constructors are given. -/
inductive CommandExchange
  | empty (hdr : ControlMsgHeader) (completionCode : CompletionCode)
  | setEid (hdr : ControlMsgHeader) (operation : SetEid.Operation) (eid : UInt8)
      (completionCode : CompletionCode) (eidAllocationStatus : SetEid.EidAllocationStatus)
      (eidAssignmentStatus : SetEid.EidAssignmentStatus) (eidSetting eidPoolSize : UInt8)
  | getEid (hdr : ControlMsgHeader) (completionCode : CompletionCode) (eid : UInt8)
      (eidType : GetEid.EidType) (endpointType : GetEid.EndpointType) (mediumSpecific : UInt8)
  | allocateEids (hdr : ControlMsgHeader) (operation : AllocateEids.Operation)
      (numberOfEids startingEid completionCode : UInt8)
      (allocationStatus : AllocateEids.AllocationStatus) (eidPoolSize firstEid : UInt8)
  | getRoutingTable (hdr : ControlMsgHeader) (entryHandle : UInt8)
      (completionCode : CompletionCode) (nextEntryHandle entriesInResponse : UInt8)

namespace CommandExchange

/-- The control header of the request. -/
def hdr : CommandExchange → ControlMsgHeader
  | empty hdr .. | setEid hdr .. | getEid hdr .. | allocateEids hdr ..
  | getRoutingTable hdr .. => hdr

/-- The type of the request. -/
@[reducible] def requestType : CommandExchange → ControlMessage
  | empty .. => .emptyRequest
  | setEid .. => .setEidRequest
  | getEid .. => .getEidRequest
  | allocateEids .. => .allocateEidsRequest
  | getRoutingTable .. => .getRoutingTableRequest

/-- The type of the response. -/
@[reducible] def responseType : CommandExchange → ControlMessage
  | empty .. => .emptyResponse
  | setEid .. => .setEidResponse
  | getEid .. => .getEidResponse
  | allocateEids .. => .allocateEidsResponse
  | getRoutingTable .. => .getRoutingTableResponse

/-- The request, as its constructor makes it. -/
def request : (x : CommandExchange) → x.requestType.Carrier
  | empty hdr _ => (⟨hdr⟩ : EmptyRequest)
  | setEid hdr operation eid .. => SetEid.Request.new hdr operation eid
  | getEid hdr .. => (⟨hdr⟩ : GetEid.Request)
  | allocateEids hdr operation numberOfEids startingEid .. =>
    AllocateEids.Request.new hdr operation numberOfEids startingEid
  | getRoutingTable hdr entryHandle .. => GetRoutingTable.Request.new hdr entryHandle

/-- The response, as its constructor makes it from the request. -/
def response : (x : CommandExchange) → x.requestType.Carrier → x.responseType.Carrier
  | empty _ completionCode => fun req => EmptyResponse.ofRequest req completionCode
  | setEid _ _ _ completionCode eidAllocationStatus eidAssignmentStatus eidSetting eidPoolSize =>
    fun req => SetEid.Response.ofRequest req completionCode eidAllocationStatus
      eidAssignmentStatus eidSetting eidPoolSize
  | getEid _ completionCode eid eidType endpointType mediumSpecific => fun req =>
    GetEid.Response.ofRequest req completionCode eid eidType endpointType mediumSpecific
  | allocateEids _ _ _ _ completionCode allocationStatus eidPoolSize firstEid => fun req =>
    AllocateEids.Response.ofRequest req completionCode allocationStatus eidPoolSize firstEid
  | getRoutingTable _ _ completionCode nextEntryHandle entriesInResponse => fun req =>
    GetRoutingTable.Response.ofRequest req completionCode nextEntryHandle entriesInResponse

/-- What the accessors of a request give. -/
def ReadsRequest : (x : CommandExchange) → x.requestType.Carrier → Prop
  | empty hdr _ => fun (req : EmptyRequest) => req.hdr = hdr
  | setEid hdr operation eid .. => fun (req : SetEid.Request) =>
    req.hdr = hdr ∧ req.operation = operation.toU8 ∧ req.eid = eid
  | getEid hdr .. => fun (req : GetEid.Request) => req.hdr = hdr
  | allocateEids hdr operation numberOfEids startingEid .. => fun (req : AllocateEids.Request) =>
    req.hdr = hdr ∧ req.operation = operation.toU8 ∧ req.numberOfEids = numberOfEids ∧
      req.startingEid = startingEid
  | getRoutingTable hdr entryHandle .. => fun (req : GetRoutingTable.Request) =>
    req.hdr = hdr ∧ req.entryHandle = entryHandle

/-- What the accessors of a response give. -/
def ReadsResponse : (x : CommandExchange) → x.responseType.Carrier → Prop
  | empty hdr completionCode => fun (resp : EmptyResponse) =>
    resp.hdr = hdr.setRq 0 ∧ .fromU8 resp.completionCode = completionCode
  | setEid hdr _ _ completionCode eidAllocationStatus eidAssignmentStatus eidSetting
      eidPoolSize => fun (resp : SetEid.Response) =>
    resp.hdr = hdr.setRq 0 ∧ .fromU8 resp.completionCode = completionCode ∧
      resp.eidAllocationStatus = eidAllocationStatus ∧
      resp.eidAssignmentStatus = eidAssignmentStatus.toU8 ∧ resp.eidSetting = eidSetting ∧
      resp.eidPoolSize = eidPoolSize
  | getEid hdr completionCode eid eidType endpointType mediumSpecific =>
    fun (resp : GetEid.Response) =>
      resp.hdr = hdr.setRq 0 ∧ .fromU8 resp.completionCode = completionCode ∧ resp.eid = eid ∧
        .fromU8 resp.eidType = eidType ∧ .fromU8 resp.endpointType = endpointType ∧
        resp.mediumSpecific = mediumSpecific
  | allocateEids hdr _ _ _ completionCode allocationStatus eidPoolSize firstEid =>
    fun (resp : AllocateEids.Response) =>
      resp.hdr = hdr.setRq 0 ∧ resp.completionCode = completionCode ∧
        resp.allocationStatus = allocationStatus ∧ resp.eidPoolSize = eidPoolSize ∧
        resp.firstEid = firstEid
  | getRoutingTable hdr _ completionCode nextEntryHandle entriesInResponse =>
    fun (resp : GetRoutingTable.Response) =>
      resp.hdr = hdr.setRq 0 ∧ .fromU8 resp.completionCode = completionCode ∧
        resp.nextEntryHandle = nextEntryHandle ∧ resp.entriesInResponse = entriesInResponse

/-- A field of two bits reads back a byte below four. -/
theorem getField_low {v : UInt8} (hv : v.toNat < 2 ^ 2) :
    getField (setField (.replicate 1 0) 0 1 v) 0 1 = v := by
  rw [getField_setField_self _ v (by decide) (by decide) (by decide)]
  exact lowBits_eq_self hv

/-- Two fields of two bits in one byte read back what was written. -/
theorem getField_low_high {v w : UInt8} (hv : v.toNat < 2 ^ 2) (hw : w.toNat < 2 ^ 2) :
    getField (setField (setField (.replicate 1 0) 0 1 v) 4 5 w) 0 1 = v ∧
      getField (setField (setField (.replicate 1 0) 0 1 v) 4 5 w) 4 5 = w := by
  simp (disch := decide) only [getField_setField_of_disjoint, getField_setField_self]
  exact ⟨lowBits_eq_self hv, lowBits_eq_self hw⟩

theorem readsRequest (x : CommandExchange) : x.ReadsRequest x.request := by
  cases x with
  | empty | getEid => rfl
  | setEid hdr operation => exact ⟨rfl, getField_low (by cases operation <;> decide), rfl⟩
  | allocateEids hdr operation =>
    exact ⟨rfl, getField_low (by cases operation <;> decide), rfl, rfl⟩
  | getRoutingTable => exact ⟨rfl, rfl⟩

theorem readsResponse (x : CommandExchange) : x.ReadsResponse (x.response x.request) := by
  cases x with
  | empty hdr completionCode => exact ⟨rfl, completionCode.fromU8_toU8⟩
  | setEid hdr _ _ completionCode eidAllocationStatus eidAssignmentStatus =>
    obtain ⟨hallocation, hassignment⟩ := getField_low_high
      (v := eidAllocationStatus.toU8) (w := eidAssignmentStatus.toU8)
      (by cases eidAllocationStatus <;> decide) (by cases eidAssignmentStatus <;> decide)
    refine ⟨rfl, completionCode.fromU8_toU8, ?_, hassignment, rfl, rfl⟩
    refine (congrArg SetEid.EidAllocationStatus.fromU8 hallocation).trans ?_
    cases eidAllocationStatus <;> rfl
  | getEid hdr completionCode eid eidType endpointType =>
    obtain ⟨heid, hendpoint⟩ := getField_low_high (v := eidType.toU8) (w := endpointType.toU8)
      (by cases eidType <;> decide) (by cases endpointType <;> decide)
    refine ⟨rfl, completionCode.fromU8_toU8, rfl, ?_, ?_, rfl⟩
    · refine (congrArg GetEid.EidType.fromU8 heid).trans ?_
      cases eidType <;> rfl
    · refine (congrArg GetEid.EndpointType.fromU8 hendpoint).trans ?_
      cases endpointType <;> rfl
  | allocateEids hdr _ _ _ completionCode allocationStatus =>
    have hallocation : getField (setField (.replicate 1 0) 0 1 allocationStatus.toU8) 0 1 =
        allocationStatus.toU8 := getField_low (by cases allocationStatus <;> decide)
    refine ⟨rfl, rfl, ?_, rfl, rfl⟩
    refine (congrArg AllocateEids.AllocationStatus.fromU8 hallocation).trans ?_
    cases allocationStatus <;> rfl
  | getRoutingTable hdr _ completionCode => exact ⟨rfl, completionCode.fromU8_toU8, rfl, rfl⟩

end CommandExchange

/-! ### The packets of an exchange -/

/-- The headers of a response answer those of a request: the addresses are swapped, the tag owner is
flipped and the request bit is cleared; the tag, the instance id and the command are the same. -/
structure AnswersPacket (h : TransportHeader) (c : ControlMsgHeader) (p : ControlPayload) :
    Prop where
  destinationEid : p.hdr.destinationEid = h.sourceEid
  sourceEid : p.hdr.sourceEid = h.destinationEid
  msgTag : p.hdr.msgTag = h.msgTag
  tagOwner : p.hdr.tagOwner = (h.tagOwner == 0).toUInt8
  som : p.hdr.som = 1
  eom : p.hdr.eom = 1
  packetSeq : p.hdr.packetSeq = 0
  instanceId : p.controlHdr.instanceId = c.instanceId
  commandCode : p.controlHdr.commandCode = c.commandCode
  rq : p.controlHdr.rq = 0

theorem answersPacket_createResponse (h : TransportHeader) (c : ControlMsgHeader)
    (payload : Bytes) : AnswersPacket h c ⟨h.createResponse, c.setRq 0, payload⟩ where
  destinationEid := TransportHeader.destinationEid_new ..
  sourceEid := TransportHeader.sourceEid_new ..
  msgTag := by
    have htag : h.msgTag = lowBits 3 h.msgTagTagOwnerPacketSeqEomSom[0] :=
      getField_zero _ (by decide) 2
    refine (TransportHeader.msgTag_new ..).trans ?_
    rw [htag, lowBits_lowBits]
  tagOwner := TransportHeader.tagOwner_new ..
  som := TransportHeader.som_new ..
  eom := TransportHeader.eom_new ..
  packetSeq := TransportHeader.packetSeq_new ..
  instanceId := c.instanceId_setRq 0
  commandCode := rfl
  rq := c.rq_setRq_zero

/-- **The round trip of an exchange.** For every command and all arguments of its constructors, the
responder reads the request that was built, and the requester the response that was built from it,
with the headers of an answer; whatever control headers the packets are built with, and whatever
follows them. -/
theorem CommandExchange.reads_back (x : CommandExchange) (h : TransportHeader)
    (c c' : ControlMsgHeader) (pec pec' : Bytes) :
    ∃ p req, ControlPayload.tryFrom ((ControlPayload.new h c
        (FromControlPayload.intoBytes x.request)).intoBytes ++ pec) = .ok p ∧
      p.hdr = h ∧ p.controlHdr = x.hdr ∧
      FromControlPayload.tryFromControlPayload x.requestType.Carrier p = .ok req ∧
      x.ReadsRequest req ∧
      ∃ q resp, ControlPayload.tryToResponse x.responseType.Carrier
          ((p.createResponsePayload c'
            (FromControlPayload.intoBytes (x.response req))).intoBytes ++ pec') = .ok (q, resp) ∧
        x.ReadsResponse resp ∧ AnswersPacket h x.hdr q := by
  have hrequest := ControlPayload.tryFrom_new_append x.requestType h c x.request pec
  have hresponse := ControlPayload.tryFrom_new_append x.responseType h.createResponse c'
    (x.response x.request) pec'
  have hhdr : x.requestType.hdr x.request = x.hdr ∧
      x.responseType.hdr (x.response x.request) = x.hdr.setRq 0 := by
    cases x <;> exact ⟨rfl, rfl⟩
  rw [hhdr.2] at hresponse
  have hread := ControlPayload.tryToResponse_eq_ok_iff.mpr
    ⟨hresponse, trySized_encode_append (x.response x.request) pec'⟩
  exact ⟨_, x.request, hrequest, rfl, hhdr.1, trySized_encode_append x.request pec,
    x.readsRequest, _, _, hread, x.readsResponse, answersPacket_createResponse h x.hdr _⟩

end MctpEmu
