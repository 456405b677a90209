import MctpEmu.Base.Derive
import MctpEmu.Library.BitField
import Mathlib.Tactic.IntervalCases

/-!
# The MCTP transport header

The four bytes in front of every MCTP packet (`mctp-base-lib/src/base/models.rs`): the header
version, the destination and source endpoint ids, and a byte that holds the message tag, the tag
owner, the packet sequence number and the end and start of message flags. The bit fields are the
accessors that the `bitfield` attributes declare.

## Main definitions

* `TransportHeader`, with one getter and one setter for each bit field.
* `TransportHeader.new`, `TransportHeader.createResponse`.

## Main results

* `TransportHeader.msgTag_new` and its siblings: what every bit field of a built header holds.
* `TransportHeader.createResponse_mk`: the header of a response, byte by byte.
-/

namespace MctpEmu

open BitField

/-- `MCTP_BASE_PROTOCOL_SUPPORTED_HDR_VERSION`. -/
def mctpBaseProtocolSupportedHdrVersion : UInt8 := 0x1

@[ext]
structure TransportHeader where
  headerVersionRsvd : Vector UInt8 1
  destinationEid : UInt8
  sourceEid : UInt8
  msgTagTagOwnerPacketSeqEomSom : Vector UInt8 1
deriving DecidableEq, Repr

namespace TransportHeader

/-- The fields, in the order in which they are serialized. -/
def fields : TransportHeader ≃ Vector UInt8 1 × UInt8 × UInt8 × Vector UInt8 1 where
  toFun h := (h.headerVersionRsvd, h.destinationEid, h.sourceEid, h.msgTagTagOwnerPacketSeqEomSom)
  invFun f := ⟨f.1, f.2.1, f.2.2.1, f.2.2.2⟩
  left_inv _ := rfl
  right_inv _ := rfl

instance : FixedCodec TransportHeader := .ofEquiv fields

@[simp] theorem size_eq : FixedCodec.size TransportHeader = 4 := rfl

/-- A header is its four bytes. -/
theorem exists_eq_mk (h : TransportHeader) :
    ∃ b₀ b₁ b₂ b₃, h = ⟨#v[b₀], b₁, b₂, #v[b₃]⟩ := by
  obtain ⟨⟨⟨l⟩, hl⟩, b₁, b₂, ⟨l'⟩, hl'⟩ := h
  obtain ⟨b₀, rfl⟩ := List.length_eq_one_iff.mp hl
  obtain ⟨b₃, rfl⟩ := List.length_eq_one_iff.mp hl'
  exact ⟨b₀, b₁, b₂, b₃, rfl⟩

/-! ### Bit fields -/

def headerVersion (h : TransportHeader) : UInt8 := getField h.headerVersionRsvd 0 3

def rsvd (h : TransportHeader) : UInt8 := getField h.headerVersionRsvd 4 7

def msgTag (h : TransportHeader) : UInt8 := getField h.msgTagTagOwnerPacketSeqEomSom 0 2

def tagOwner (h : TransportHeader) : UInt8 := getField h.msgTagTagOwnerPacketSeqEomSom 3 3

def packetSeq (h : TransportHeader) : UInt8 := getField h.msgTagTagOwnerPacketSeqEomSom 4 5

def eom (h : TransportHeader) : UInt8 := getField h.msgTagTagOwnerPacketSeqEomSom 6 6

def som (h : TransportHeader) : UInt8 := getField h.msgTagTagOwnerPacketSeqEomSom 7 7

def setHeaderVersion (h : TransportHeader) (v : UInt8) : TransportHeader :=
  { h with headerVersionRsvd := setField h.headerVersionRsvd 0 3 v }

def setMsgTag (h : TransportHeader) (v : UInt8) : TransportHeader :=
  { h with msgTagTagOwnerPacketSeqEomSom := setField h.msgTagTagOwnerPacketSeqEomSom 0 2 v }

def setTagOwner (h : TransportHeader) (v : UInt8) : TransportHeader :=
  { h with msgTagTagOwnerPacketSeqEomSom := setField h.msgTagTagOwnerPacketSeqEomSom 3 3 v }

def setEom (h : TransportHeader) (v : UInt8) : TransportHeader :=
  { h with msgTagTagOwnerPacketSeqEomSom := setField h.msgTagTagOwnerPacketSeqEomSom 6 6 v }

def setSom (h : TransportHeader) (v : UInt8) : TransportHeader :=
  { h with msgTagTagOwnerPacketSeqEomSom := setField h.msgTagTagOwnerPacketSeqEomSom 7 7 v }

/-! ### Building a header -/

/-- `TransportHeader::new`, which the builder calls with `None` for the flags left out. -/
def new (srcEid dstEid msgTag : UInt8) (tagOwner startOfMsg endOfMsg : Option Bool) :
    TransportHeader :=
  ({ headerVersionRsvd := .replicate 1 0
     destinationEid := dstEid
     sourceEid := srcEid
     msgTagTagOwnerPacketSeqEomSom := .replicate 1 0 } : TransportHeader)
    |>.setHeaderVersion mctpBaseProtocolSupportedHdrVersion
    |>.setMsgTag msgTag
    |>.setTagOwner (tagOwner.getD false).toUInt8
    |>.setSom (startOfMsg.getD false).toUInt8
    |>.setEom (endOfMsg.getD false).toUInt8

/-- `TransportHeader::create_response`: addresses swapped, same tag, tag owner flipped. -/
def createResponse (h : TransportHeader) : TransportHeader :=
  new h.destinationEid h.sourceEid h.msgTag (some (h.tagOwner == 0)) (some true) (some true)

section New

variable (srcEid dstEid tag : UInt8) (tagOwner startOfMsg endOfMsg : Option Bool)

@[simp] theorem destinationEid_new :
    (new srcEid dstEid tag tagOwner startOfMsg endOfMsg).destinationEid = dstEid := rfl

@[simp] theorem sourceEid_new :
    (new srcEid dstEid tag tagOwner startOfMsg endOfMsg).sourceEid = srcEid := rfl

theorem headerVersionRsvd_new :
    (new srcEid dstEid tag tagOwner startOfMsg endOfMsg).headerVersionRsvd = #v[1] := by
  change setField (.replicate 1 0) 0 3 1 = #v[1]
  decide

/-- The tag is cut to three bits. -/
@[simp] theorem msgTag_new :
    (new srcEid dstEid tag tagOwner startOfMsg endOfMsg).msgTag = lowBits 3 tag := by
  simp (disch := decide) only [new, msgTag, setHeaderVersion, setMsgTag, setTagOwner, setSom,
    setEom, getField_setField_of_disjoint, getField_setField_self]

@[simp] theorem tagOwner_new :
    (new srcEid dstEid tag tagOwner startOfMsg endOfMsg).tagOwner =
      (tagOwner.getD false).toUInt8 := by
  simp (disch := decide) only [new, TransportHeader.tagOwner, setHeaderVersion, setMsgTag,
    setTagOwner, setSom, setEom, getField_setField_of_disjoint, getField_setField_self]
  exact lowBits_one_toUInt8 _

@[simp] theorem packetSeq_new :
    (new srcEid dstEid tag tagOwner startOfMsg endOfMsg).packetSeq = 0 := by
  simp (disch := decide) only [new, packetSeq, setHeaderVersion, setMsgTag, setTagOwner, setSom,
    setEom, getField_setField_of_disjoint]
  exact getField_replicate_zero 4 5

@[simp] theorem som_new :
    (new srcEid dstEid tag tagOwner startOfMsg endOfMsg).som = (startOfMsg.getD false).toUInt8 := by
  simp (disch := decide) only [new, som, setHeaderVersion, setMsgTag, setTagOwner, setSom, setEom,
    getField_setField_of_disjoint, getField_setField_self]
  exact lowBits_one_toUInt8 _

@[simp] theorem eom_new :
    (new srcEid dstEid tag tagOwner startOfMsg endOfMsg).eom = (endOfMsg.getD false).toUInt8 := by
  simp (disch := decide) only [new, eom, setHeaderVersion, setMsgTag, setTagOwner, setSom, setEom,
    getField_setField_self]
  exact lowBits_one_toUInt8 _

end New

/-- The flag byte of a response header: start and end of message set, sequence number 0, the tag
of the request and its tag owner flipped. -/
theorem flags_createResponse (b₀ b₁ b₂ b₃ : UInt8) :
    (createResponse ⟨#v[b₀], b₁, b₂, #v[b₃]⟩).msgTagTagOwnerPacketSeqEomSom =
      #v[(0xC0 : UInt8) ||| (b₃ &&& (0x07 : UInt8)) ||| (~~~b₃ &&& (0x08 : UInt8))] := by
  refine bit_ext fun k hk => ?_
  rw [bit_eq_testBit_getElem_zero #v[_] hk]
  simp only [createResponse, new, setHeaderVersion, setMsgTag, setTagOwner, setSom, setEom, msgTag,
    tagOwner, getField_self, toUInt8_beq_zero]
  simp (disch := assumption) only [bit_setField]
  -- Each bit is a constant, a bit of the request or its negation.
  interval_cases k <;>
    simp [testBit_or, testBit_and, testBit_not, testBit_getField, testBit_toUInt8,
      bit_eq_testBit_getElem_zero] <;>
    cases testBit b₃ _ <;> decide

/-- The header of a response, byte by byte. -/
theorem createResponse_mk (b₀ b₁ b₂ b₃ : UInt8) :
    createResponse ⟨#v[b₀], b₁, b₂, #v[b₃]⟩ =
      ⟨#v[1], b₂, b₁, #v[(0xC0 : UInt8) ||| (b₃ &&& (0x07 : UInt8)) |||
        (~~~b₃ &&& (0x08 : UInt8))]⟩ := by
  ext1
  · exact headerVersionRsvd_new ..
  · exact destinationEid_new ..
  · exact sourceEid_new ..
  · exact flags_createResponse b₀ b₁ b₂ b₃

end TransportHeader

end MctpEmu
