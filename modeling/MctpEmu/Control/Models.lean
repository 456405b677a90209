import MctpEmu.Base.TransportHeader
import MctpEmu.Control.Enums

/-!
# Control messages

The control header that starts every control message, and the requests and responses of the
commands (`mctp-base-lib/src/control/models.rs`, `set_eid.rs`, `get_eid.rs`, `allocate_eids.rs`,
`get_routing_table.rs`). Every structure is packed: its size is the sum of the sizes of its
fields, and it is serialized field by field.

## Main definitions

* `ControlMsgHeader`, `ControlMsgHeader.new`, `ControlMsgHeader.setRq`.
* `EmptyRequest`, `EmptyResponse`, `SetEid.Request`, `SetEid.Response`, `GetEid.Request`,
  `GetEid.Response`, `AllocateEids.Request`, `AllocateEids.Response`, `GetRoutingTable.Request`,
  `GetRoutingTable.Response`.
* `isSuccess`: the check that the three responses with a derived status share.

## Main results

* `ControlMsgHeader.rq_new` and its siblings: the bit fields of a built control header.
* `ControlMsgHeader.flags_setRq_zero`: clearing the request bit changes no other bit.
-/

namespace MctpEmu

open BitField

/-! ### The control header -/

structure ControlMsgHeader where
  msgTypeIntegrityCheckInstanceIdRsvdDBitRq : Vector UInt8 2
  commandCode : CommandCode
deriving DecidableEq, Repr

namespace ControlMsgHeader

def fields : ControlMsgHeader ≃ Vector UInt8 2 × CommandCode where
  toFun h := (h.msgTypeIntegrityCheckInstanceIdRsvdDBitRq, h.commandCode)
  invFun f := ⟨f.1, f.2⟩
  left_inv _ := rfl
  right_inv _ := rfl

instance : FixedCodec ControlMsgHeader := .ofEquiv fields

@[simp] theorem size_eq : FixedCodec.size ControlMsgHeader = 3 := rfl

def msgType (h : ControlMsgHeader) : UInt8 :=
  getField h.msgTypeIntegrityCheckInstanceIdRsvdDBitRq 0 6

def integrityCheck (h : ControlMsgHeader) : UInt8 :=
  getField h.msgTypeIntegrityCheckInstanceIdRsvdDBitRq 7 7

def instanceId (h : ControlMsgHeader) : UInt8 :=
  getField h.msgTypeIntegrityCheckInstanceIdRsvdDBitRq 8 12

def rsvd (h : ControlMsgHeader) : UInt8 :=
  getField h.msgTypeIntegrityCheckInstanceIdRsvdDBitRq 13 13

def dBit (h : ControlMsgHeader) : UInt8 :=
  getField h.msgTypeIntegrityCheckInstanceIdRsvdDBitRq 14 14

def rq (h : ControlMsgHeader) : UInt8 :=
  getField h.msgTypeIntegrityCheckInstanceIdRsvdDBitRq 15 15

/-- Every setter of the header writes one range of the same two bytes. -/
def setBits (h : ControlMsgHeader) (lo hi : ℕ) (v : UInt8) : ControlMsgHeader :=
  { h with msgTypeIntegrityCheckInstanceIdRsvdDBitRq :=
      setField h.msgTypeIntegrityCheckInstanceIdRsvdDBitRq lo hi v }

def setIntegrityCheck (h : ControlMsgHeader) (v : UInt8) : ControlMsgHeader := h.setBits 7 7 v

def setInstanceId (h : ControlMsgHeader) (v : UInt8) : ControlMsgHeader := h.setBits 8 12 v

def setDBit (h : ControlMsgHeader) (v : UInt8) : ControlMsgHeader := h.setBits 14 14 v

def setRq (h : ControlMsgHeader) (v : UInt8) : ControlMsgHeader := h.setBits 15 15 v

/-- The derived `Default`. -/
def default : ControlMsgHeader := ⟨.replicate 2 0, .unknown⟩

/-- `ControlMsgHeader::new`. -/
def new (cmdCode : CommandCode) (instanceId : UInt8) (integCheck request datagram : Bool) :
    ControlMsgHeader :=
  { default
      |>.setRq request.toUInt8
      |>.setInstanceId instanceId
      |>.setIntegrityCheck integCheck.toUInt8
      |>.setDBit datagram.toUInt8 with
    commandCode := cmdCode }

@[simp] theorem commandCode_setRq (h : ControlMsgHeader) (v : UInt8) :
    (h.setRq v).commandCode = h.commandCode := rfl

section New

variable (cmdCode : CommandCode) (id : UInt8) (integCheck request datagram : Bool)

@[simp] theorem commandCode_new :
    (new cmdCode id integCheck request datagram).commandCode = cmdCode := rfl

@[simp] theorem msgType_new : (new cmdCode id integCheck request datagram).msgType = 0 := by
  simp (disch := decide) only [new, msgType, setRq, setInstanceId, setIntegrityCheck, setDBit,
    setBits, getField_setField_of_disjoint]
  exact getField_replicate_zero 0 6

@[simp] theorem integrityCheck_new :
    (new cmdCode id integCheck request datagram).integrityCheck = integCheck.toUInt8 := by
  simp (disch := decide) only [new, integrityCheck, setRq, setInstanceId, setIntegrityCheck,
    setDBit, setBits, getField_setField_of_disjoint, getField_setField_self]
  exact lowBits_one_toUInt8 _

/-- The instance id is cut to five bits. -/
@[simp] theorem instanceId_new :
    (new cmdCode id integCheck request datagram).instanceId = lowBits 5 id := by
  simp (disch := decide) only [new, instanceId, setRq, setInstanceId, setIntegrityCheck, setDBit,
    setBits, getField_setField_of_disjoint, getField_setField_self]

@[simp] theorem dBit_new :
    (new cmdCode id integCheck request datagram).dBit = datagram.toUInt8 := by
  simp (disch := decide) only [new, dBit, setRq, setInstanceId, setIntegrityCheck, setDBit,
    setBits, getField_setField_self]
  exact lowBits_one_toUInt8 _

@[simp] theorem rq_new :
    (new cmdCode id integCheck request datagram).rq = request.toUInt8 := by
  simp (disch := decide) only [new, rq, setRq, setInstanceId, setIntegrityCheck, setDBit,
    setBits, getField_setField_of_disjoint, getField_setField_self]
  exact lowBits_one_toUInt8 _

end New

/-- Clearing the request bit leaves the first byte and the low seven bits of the second. -/
theorem flags_setRq_zero (b₀ b₁ : UInt8) (cmdCode : CommandCode) :
    (setRq ⟨#v[b₀, b₁], cmdCode⟩ 0).msgTypeIntegrityCheckInstanceIdRsvdDBitRq =
      #v[b₀, b₁ &&& (0x7F : UInt8)] := by
  simp only [setRq, setBits]
  refine Vector.ext fun j hj => byte_ext fun i hi => ?_
  rw [testBit_getElem _ hj hi, bit_setField _ 15 15 0 (by omega), ← testBit_getElem _ hj hi]
  interval_cases j
  · rw [if_neg (by omega)]
    rfl
  · change (if _ then _ else testBit b₁ i) = testBit (b₁ &&& 0x7F) i
    rw [testBit_and]
    interval_cases i <;> simp <;> cases testBit b₁ _ <;> decide

/-- A control header is its two flag bytes and its command. -/
theorem exists_eq_mk (h : ControlMsgHeader) : ∃ b₀ b₁ c, h = ⟨#v[b₀, b₁], c⟩ := by
  obtain ⟨⟨⟨l⟩, hl⟩, c⟩ := h
  match l, hl with
  | [b₀, b₁], _ => exact ⟨b₀, b₁, c, rfl⟩

/-- The header of a response has the instance id of its request. -/
theorem instanceId_setRq (h : ControlMsgHeader) (v : UInt8) :
    (h.setRq v).instanceId = h.instanceId :=
  getField_setField_of_disjoint _ v (.inl (by decide))

theorem rq_setRq_zero (h : ControlMsgHeader) : (h.setRq 0).rq = 0 := by
  rw [rq, setRq, setBits, getField_setField_self _ _ le_rfl (by decide) (by decide)]
  rfl

theorem setRq_zero_mk (b₀ b₁ : UInt8) (c : CommandCode) :
    setRq ⟨#v[b₀, b₁], c⟩ 0 = ⟨#v[b₀, b₁ &&& (0x7F : UInt8)], c⟩ := by
  have hflags := flags_setRq_zero b₀ b₁ c
  exact congrArg (ControlMsgHeader.mk · c) hflags

end ControlMsgHeader

/-! ### Messages without a body -/

structure EmptyRequest where
  hdr : ControlMsgHeader
deriving DecidableEq, Repr

namespace EmptyRequest

def fields : EmptyRequest ≃ ControlMsgHeader where
  toFun m := m.hdr
  invFun h := ⟨h⟩
  left_inv _ := rfl
  right_inv _ := rfl

instance : FixedCodec EmptyRequest := .ofEquiv fields

end EmptyRequest

structure EmptyResponse where
  hdr : ControlMsgHeader
  completionCode : UInt8
deriving DecidableEq, Repr

namespace EmptyResponse

def fields : EmptyResponse ≃ ControlMsgHeader × UInt8 where
  toFun m := (m.hdr, m.completionCode)
  invFun f := ⟨f.1, f.2⟩
  left_inv _ := rfl
  right_inv _ := rfl

instance : FixedCodec EmptyResponse := .ofEquiv fields

/-- `EmptyResponse::new`. -/
def new (hdr : ControlMsgHeader) (completionCode : UInt8) : EmptyResponse :=
  { hdr, completionCode }

/-- `EmptyResponse::from`. -/
def ofRequest (req : EmptyRequest) (completionCode : CompletionCode) : EmptyResponse :=
  new (req.hdr.setRq 0) completionCode.toU8

end EmptyResponse

/-! ### Status of a response -/

/-- `ControlMsgReponseStatus::is_success` of a response with this completion code. -/
def isSuccess (completionCode : UInt8) : Except String Unit :=
  if CompletionCode.fromU8 completionCode ≠ .success then
    .error s!"Response returned an error code: {completionCode.toNat}"
  else .ok ()

/-! ### Set Endpoint ID -/

namespace SetEid

structure Request where
  hdr : ControlMsgHeader
  operationReserved : Vector UInt8 1
  eid : UInt8
deriving DecidableEq, Repr

namespace Request

def fields : Request ≃ ControlMsgHeader × Vector UInt8 1 × UInt8 where
  toFun m := (m.hdr, m.operationReserved, m.eid)
  invFun f := ⟨f.1, f.2.1, f.2.2⟩
  left_inv _ := rfl
  right_inv _ := rfl

instance : FixedCodec Request := .ofEquiv fields

def operation (m : Request) : UInt8 := getField m.operationReserved 0 1

/-- `set_eid::Request::new`. -/
def new (hdr : ControlMsgHeader) (operation : Operation) (eid : UInt8) : Request :=
  { hdr, operationReserved := setField (.replicate 1 0) 0 1 operation.toU8, eid }

end Request

structure Response where
  hdr : ControlMsgHeader
  completionCode : UInt8
  eidAllocationStatusReserved1EidAssignmentStatusReserved2 : Vector UInt8 1
  eidSetting : UInt8
  eidPoolSize : UInt8
deriving DecidableEq, Repr

namespace Response

def fields : Response ≃ ControlMsgHeader × UInt8 × Vector UInt8 1 × UInt8 × UInt8 where
  toFun m := (m.hdr, m.completionCode,
    m.eidAllocationStatusReserved1EidAssignmentStatusReserved2, m.eidSetting, m.eidPoolSize)
  invFun f := ⟨f.1, f.2.1, f.2.2.1, f.2.2.2.1, f.2.2.2.2⟩
  left_inv _ := rfl
  right_inv _ := rfl

instance : FixedCodec Response := .ofEquiv fields

def rawEidAllocationStatus (m : Response) : UInt8 :=
  getField m.eidAllocationStatusReserved1EidAssignmentStatusReserved2 0 1

def eidAssignmentStatus (m : Response) : UInt8 :=
  getField m.eidAllocationStatusReserved1EidAssignmentStatusReserved2 4 5

def eidAllocationStatus (m : Response) : EidAllocationStatus :=
  .fromU8 m.rawEidAllocationStatus

/-- `set_eid::Response::new`. -/
def new (hdr : ControlMsgHeader) (completionCode : UInt8)
    (eidAllocationStatus : EidAllocationStatus) (eidAssignmentStatus : EidAssignmentStatus)
    (eidSetting eidPoolSize : UInt8) : Response :=
  { hdr, completionCode
    eidAllocationStatusReserved1EidAssignmentStatusReserved2 :=
      setField (setField (.replicate 1 0) 0 1 eidAllocationStatus.toU8) 4 5 eidAssignmentStatus.toU8
    eidSetting, eidPoolSize }

/-- `set_eid::Response::from`. -/
def ofRequest (req : Request) (completionCode : CompletionCode)
    (eidAllocationStatus : EidAllocationStatus) (eidAssignmentStatus : EidAssignmentStatus)
    (eidSetting eidPoolSize : UInt8) : Response :=
  new (req.hdr.setRq 0) completionCode.toU8 eidAllocationStatus eidAssignmentStatus eidSetting
    eidPoolSize

end Response

end SetEid

/-! ### Get Endpoint ID -/

namespace GetEid

structure Request where
  hdr : ControlMsgHeader
deriving DecidableEq, Repr

namespace Request

def fields : Request ≃ ControlMsgHeader where
  toFun m := m.hdr
  invFun h := ⟨h⟩
  left_inv _ := rfl
  right_inv _ := rfl

instance : FixedCodec Request := .ofEquiv fields

end Request

structure Response where
  hdr : ControlMsgHeader
  completionCode : UInt8
  eid : UInt8
  eidEndpointType : Vector UInt8 1
  mediumSpecific : UInt8
deriving DecidableEq, Repr

namespace Response

def fields : Response ≃ ControlMsgHeader × UInt8 × UInt8 × Vector UInt8 1 × UInt8 where
  toFun m := (m.hdr, m.completionCode, m.eid, m.eidEndpointType, m.mediumSpecific)
  invFun f := ⟨f.1, f.2.1, f.2.2.1, f.2.2.2.1, f.2.2.2.2⟩
  left_inv _ := rfl
  right_inv _ := rfl

instance : FixedCodec Response := .ofEquiv fields

def eidType (m : Response) : UInt8 := getField m.eidEndpointType 0 1

def endpointType (m : Response) : UInt8 := getField m.eidEndpointType 4 5

/-- `get_eid::Response::new`. -/
def new (hdr : ControlMsgHeader) (completionCode eid : UInt8) (eidType : EidType)
    (endpointType : EndpointType) (mediumSpecific : UInt8) : Response :=
  { hdr, completionCode, eid
    eidEndpointType := setField (setField (.replicate 1 0) 0 1 eidType.toU8) 4 5 endpointType.toU8
    mediumSpecific }

/-- `get_eid::Response::from`. -/
def ofRequest (req : Request) (completionCode : CompletionCode) (eid : UInt8) (eidType : EidType)
    (endpointType : EndpointType) (mediumSpecific : UInt8) : Response :=
  new (req.hdr.setRq 0) completionCode.toU8 eid eidType endpointType mediumSpecific

end Response

end GetEid

/-! ### Allocate Endpoint IDs -/

namespace AllocateEids

structure Request where
  hdr : ControlMsgHeader
  operationReserved : Vector UInt8 1
  numberOfEids : UInt8
  startingEid : UInt8
deriving DecidableEq, Repr

namespace Request

def fields : Request ≃ ControlMsgHeader × Vector UInt8 1 × UInt8 × UInt8 where
  toFun m := (m.hdr, m.operationReserved, m.numberOfEids, m.startingEid)
  invFun f := ⟨f.1, f.2.1, f.2.2.1, f.2.2.2⟩
  left_inv _ := rfl
  right_inv _ := rfl

instance : FixedCodec Request := .ofEquiv fields

def operation (m : Request) : UInt8 := getField m.operationReserved 0 1

/-- `allocate_eids::Request::new`. -/
def new (hdr : ControlMsgHeader) (operation : Operation) (numberOfEids startingEid : UInt8) :
    Request :=
  { hdr, operationReserved := setField (.replicate 1 0) 0 1 operation.toU8, numberOfEids, startingEid }

end Request

structure Response where
  hdr : ControlMsgHeader
  completionCode : UInt8
  allocationStatusReserved : Vector UInt8 1
  eidPoolSize : UInt8
  firstEid : UInt8
deriving DecidableEq, Repr

namespace Response

def fields : Response ≃ ControlMsgHeader × UInt8 × Vector UInt8 1 × UInt8 × UInt8 where
  toFun m := (m.hdr, m.completionCode, m.allocationStatusReserved, m.eidPoolSize, m.firstEid)
  invFun f := ⟨f.1, f.2.1, f.2.2.1, f.2.2.2.1, f.2.2.2.2⟩
  left_inv _ := rfl
  right_inv _ := rfl

instance : FixedCodec Response := .ofEquiv fields

def rawAllocationStatus (m : Response) : UInt8 := getField m.allocationStatusReserved 0 1

def allocationStatus (m : Response) : AllocationStatus := .fromU8 m.rawAllocationStatus

/-- `allocate_eids::Response::new`. -/
def new (hdr : ControlMsgHeader) (completionCode : UInt8) (allocationStatus : AllocationStatus)
    (eidPoolSize firstEid : UInt8) : Response :=
  { hdr, completionCode
    allocationStatusReserved := setField (.replicate 1 0) 0 1 allocationStatus.toU8
    eidPoolSize, firstEid }

/-- `allocate_eids::Response::from`, which takes the byte of the completion code. -/
def ofRequest (req : Request) (completionCode : UInt8) (allocationStatus : AllocationStatus)
    (eidPoolSize firstEid : UInt8) : Response :=
  new (req.hdr.setRq 0) completionCode allocationStatus eidPoolSize firstEid

end Response

end AllocateEids

/-! ### Get Routing Table Entries -/

namespace GetRoutingTable

structure Request where
  hdr : ControlMsgHeader
  entryHandle : UInt8
deriving DecidableEq, Repr

namespace Request

def fields : Request ≃ ControlMsgHeader × UInt8 where
  toFun m := (m.hdr, m.entryHandle)
  invFun f := ⟨f.1, f.2⟩
  left_inv _ := rfl
  right_inv _ := rfl

instance : FixedCodec Request := .ofEquiv fields

/-- `get_routing_table::Request::new`. -/
def new (hdr : ControlMsgHeader) (entryHandle : UInt8) : Request := { hdr, entryHandle }

end Request

structure Response where
  hdr : ControlMsgHeader
  completionCode : UInt8
  nextEntryHandle : UInt8
  entriesInResponse : UInt8
deriving DecidableEq, Repr

namespace Response

def fields : Response ≃ ControlMsgHeader × UInt8 × UInt8 × UInt8 where
  toFun m := (m.hdr, m.completionCode, m.nextEntryHandle, m.entriesInResponse)
  invFun f := ⟨f.1, f.2.1, f.2.2.1, f.2.2.2⟩
  left_inv _ := rfl
  right_inv _ := rfl

instance : FixedCodec Response := .ofEquiv fields

/-- `get_routing_table::Response::new`. -/
def new (hdr : ControlMsgHeader) (completionCode nextEntryHandle entriesInResponse : UInt8) :
    Response :=
  { hdr, completionCode, nextEntryHandle, entriesInResponse }

/-- `get_routing_table::Response::from`. -/
def ofRequest (req : Request) (completionCode : CompletionCode)
    (nextEntryHandle entriesInResponse : UInt8) : Response :=
  new (req.hdr.setRq 0) completionCode.toU8 nextEntryHandle entriesInResponse

end Response

end GetRoutingTable

end MctpEmu
