import MctpEmu.Base.TransportHeader

/-!
# Types of the network layer

Addresses, messages, clients and errors of `src/network/types.rs`, `src/network/error.rs` and
`src/phys/error.rs`, and the flow tags of `src/endpoint/types.rs`.

## Main definitions

* `MctpEmuError`: the errors of the physical and the network layer.
* `SocketAddress`, `ClientCallbackMsg`, `NetworkBindingCallbackMsg`, `Client`.
* `MsgFlowTag`, `createTag`: what a pending request and a received packet are matched by.

## Main results

* `createTag_intoBytes`: the tag of a packet that starts with a transport header.
-/

namespace MctpEmu

/-! ### Errors -/

/-- The text of a `std::io::Error`. -/
abbrev IoError := String

inductive Phys.Error
  | socketError (error : IoError)
  | transmitError (message : String)
  | invalidAddress (addr : UInt64)
  | other (message : String)
deriving DecidableEq, Repr

inductive Network.Error
  | invalidSocketError (sd : Int32)
  | invalidBindingError (bindingId : UInt64)
  | other (message : String)
deriving DecidableEq, Repr

inductive MctpEmuError
  | phys (error : Phys.Error)
  | network (error : Network.Error)
deriving DecidableEq, Repr

/-! ### Addresses and messages -/

inductive SocketAddress
  | basic (address msgType tag : UInt8)
  | extended (address : UInt8) (network : UInt32) (bindingId phyAddr : UInt64)
deriving DecidableEq, Repr

/-- The only variant of the enumeration, `Receive`. -/
structure ClientCallbackMsg where
  receive ::
  addr : SocketAddress
  buf : Bytes
deriving DecidableEq, Repr

/-- The only variant of the enumeration, `Receive`. -/
structure NetworkBindingCallbackMsg where
  receive ::
  id : UInt64
  buf : Bytes
deriving DecidableEq, Repr

/-- A bound socket. -/
structure Client where
  address : UInt8
  msgType : UInt8
  tag : UInt8
deriving DecidableEq, Repr

/-! ### Flow tags -/

/-- The addressing of a packet. -/
structure MsgFlowTag where
  destEid : UInt8
  srcEid : UInt8
  msgTag : UInt8
  tagOwner : Bool
deriving DecidableEq, Repr

/-- The derived `Default`. -/
def MsgFlowTag.default : MsgFlowTag := ⟨0, 0, 0, false⟩

/-- `create_tag`: the tag of a packet, or the default one for a packet without a whole header. -/
def createTag (bytes : Bytes) : Option MsgFlowTag :=
  if bytes.length < 4 then
    some .default
  else
    match FromBinary.tryFrom TransportHeader bytes with
    | .ok hdr => some
        { destEid := hdr.destinationEid
          srcEid := hdr.sourceEid
          msgTag := hdr.msgTag
          tagOwner := hdr.tagOwner != 0 }
    | .error _ => none

theorem createTag_of_lt {bytes : Bytes} (h : bytes.length < 4) :
    createTag bytes = some .default :=
  if_pos h

/-- A packet that starts with a transport header has the tag of this header. -/
theorem createTag_intoBytes (hdr : TransportHeader) (rest : Bytes) :
    createTag (FromBinary.intoBytes hdr ++ rest) = some
      ⟨hdr.destinationEid, hdr.sourceEid, hdr.msgTag, hdr.tagOwner != 0⟩ := by
  have hlen : ¬ (FromBinary.intoBytes hdr ++ rest).length < 4 := by
    rw [FromBinary.intoBytes, List.length_append, FixedCodec.length_encode,
      TransportHeader.size_eq]
    omega
  have hread : FromBinary.tryFrom TransportHeader (FromBinary.intoBytes hdr ++ rest) = .ok hdr :=
    trySized_encode_append hdr rest
  rw [createTag, if_neg hlen, hread]

/-- Every packet with a whole header starts with one. -/
theorem exists_eq_intoBytes_append {bytes : Bytes} (h : 4 ≤ bytes.length) :
    ∃ hdr rest, bytes = FromBinary.intoBytes (α := TransportHeader) hdr ++ rest := by
  match bytes, h with
  | b₀ :: b₁ :: b₂ :: b₃ :: rest, _ =>
    exact ⟨⟨#v[b₀], b₁, b₂, #v[b₃]⟩, rest, rfl⟩

/-- The tag of a packet with a whole header holds the fields of this header. -/
theorem exists_createTag_of_le {bytes : Bytes} (h : 4 ≤ bytes.length) :
    ∃ hdr, FromBinary.tryFrom TransportHeader bytes = .ok hdr ∧
      createTag bytes = some
        ⟨hdr.destinationEid, hdr.sourceEid, hdr.msgTag, hdr.tagOwner != 0⟩ := by
  obtain ⟨hdr, rest, rfl⟩ := exists_eq_intoBytes_append h
  exact ⟨hdr, trySized_encode_append hdr rest, createTag_intoBytes hdr rest⟩

/-- A tag is always created: the header of four bytes is never refused. -/
theorem exists_createTag (bytes : Bytes) : ∃ tag, createTag bytes = some tag := by
  by_cases h : bytes.length < 4
  · exact ⟨_, createTag_of_lt h⟩
  · obtain ⟨hdr, -, htag⟩ := exists_createTag_of_le (Nat.le_of_not_lt h)
    exact ⟨_, htag⟩

end MctpEmu
