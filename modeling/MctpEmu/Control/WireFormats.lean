import MctpEmu.Control.Payload
import MctpEmu.Phys.SmbusTypes

/-!
# The wire formats of the crate

All structures that are sent as bytes, as one family: the transport header, the control header,
the SMBus header, and the ten requests and responses of the control protocol. The derive macros
generate three ways to decode a control message: from bytes, from a parsed `ControlPayload`, and
from a packet through `ControlPayload::try_to_response`. This file proves that every format is
read back as it was written, that only short input is refused, and that the three ways agree.

## Main definitions

* `ControlMessage`, `WireType`: the names of the formats, with their types and conversions.
* `WireType.canonicalBytes`: the bytes of a format with an undefined command code replaced.

## Main results

* `ControlMessage.exists_tryToResponse_iff`: `try_to_response` decodes from offset 4.
* `WireType.wireFormats`: the laws of all formats.
-/

namespace MctpEmu

open FixedCodec

/-! ### The formats -/

/-- The control messages, which derive `FromControlPayload`. -/
inductive ControlMessage
  | emptyRequest
  | emptyResponse
  | setEidRequest
  | setEidResponse
  | getEidRequest
  | getEidResponse
  | allocateEidsRequest
  | allocateEidsResponse
  | getRoutingTableRequest
  | getRoutingTableResponse
deriving DecidableEq, Repr

namespace ControlMessage

/-- The structure of a control message. -/
@[reducible] def Carrier : ControlMessage → Type
  | emptyRequest => EmptyRequest
  | emptyResponse => EmptyResponse
  | setEidRequest => SetEid.Request
  | setEidResponse => SetEid.Response
  | getEidRequest => GetEid.Request
  | getEidResponse => GetEid.Response
  | allocateEidsRequest => AllocateEids.Request
  | allocateEidsResponse => AllocateEids.Response
  | getRoutingTableRequest => GetRoutingTable.Request
  | getRoutingTableResponse => GetRoutingTable.Response

instance : (m : ControlMessage) → FixedCodec m.Carrier
  | emptyRequest => inferInstanceAs (FixedCodec EmptyRequest)
  | emptyResponse => inferInstanceAs (FixedCodec EmptyResponse)
  | setEidRequest => inferInstanceAs (FixedCodec SetEid.Request)
  | setEidResponse => inferInstanceAs (FixedCodec SetEid.Response)
  | getEidRequest => inferInstanceAs (FixedCodec GetEid.Request)
  | getEidResponse => inferInstanceAs (FixedCodec GetEid.Response)
  | allocateEidsRequest => inferInstanceAs (FixedCodec AllocateEids.Request)
  | allocateEidsResponse => inferInstanceAs (FixedCodec AllocateEids.Response)
  | getRoutingTableRequest => inferInstanceAs (FixedCodec GetRoutingTable.Request)
  | getRoutingTableResponse => inferInstanceAs (FixedCodec GetRoutingTable.Response)

/-- `size_of::<T>()`. -/
def sizeOf (m : ControlMessage) : ℕ := size m.Carrier

theorem three_le_sizeOf (m : ControlMessage) : 3 ≤ m.sizeOf := by
  cases m <;> decide

/-- Decoding a parsed packet is decoding its bytes from offset 4. -/
theorem tryFromControlPayload_eq (m : ControlMessage) {b : Bytes} {p : ControlPayload}
    (h : ControlPayload.tryFrom b = .ok p) :
    FromControlPayload.tryFromControlPayload m.Carrier p =
      FromControlPayload.tryFrom m.Carrier (b.drop 4) := by
  have hb := ControlPayload.intoBytes_of_tryFrom h
  have hlen : (FromBinary.intoBytes p.hdr).length = 4 := length_encode p.hdr
  rw [← hb, ControlPayload.intoBytes, List.drop_left' hlen]
  rfl

/-- `try_to_response` decodes the packet's bytes from offset 4. -/
theorem exists_tryToResponse_iff (m : ControlMessage) (b : Bytes) (x : m.Carrier) :
    (∃ p, ControlPayload.tryToResponse m.Carrier b = .ok (p, x)) ↔
      FromControlPayload.tryFrom m.Carrier (b.drop 4) = .ok x := by
  simp only [ControlPayload.tryToResponse_eq_ok_iff]
  cases hp : ControlPayload.tryFrom b with
  | error e =>
    have hlt : b.length < 7 := (ControlPayload.tryFrom_eq_error_iff b).mp ⟨e, hp⟩
    have hshort : (b.drop 4).length < size m.Carrier := by
      have := m.three_le_sizeOf
      rw [sizeOf] at this
      rw [List.length_drop]
      omega
    rw [FromControlPayload.tryFrom, trySized_of_lt hshort]
    exact ⟨nofun, nofun⟩
  | ok p =>
    rw [← m.tryFromControlPayload_eq hp]
    constructor
    · rintro ⟨q, hq, hx⟩
      rw [Except.ok.inj hq]
      exact hx
    · intro hx
      exact ⟨p, rfl, hx⟩

/-- `try_to_response` succeeds exactly on packets that hold the header and the message. -/
theorem tryToResponse_isOk_iff (m : ControlMessage) (b : Bytes) :
    (∃ r, ControlPayload.tryToResponse m.Carrier b = .ok r) ↔ 4 + m.sizeOf ≤ b.length := by
  have hsize : (∃ x, FromControlPayload.tryFrom m.Carrier (b.drop 4) = .ok x) ↔
      4 + m.sizeOf ≤ b.length := by
    rw [sizeOf]
    constructor
    · rintro ⟨x, hx⟩
      by_contra hlt
      have hpos := m.three_le_sizeOf
      rw [sizeOf] at hpos
      rw [FromControlPayload.tryFrom, trySized_of_lt (by rw [List.length_drop]; omega)] at hx
      cases hx
    · intro hle
      have hlen : FixedCodec.size m.Carrier ≤ (b.drop 4).length := by
        rw [List.length_drop]
        omega
      obtain ⟨x, hx, -⟩ := exists_trySized hlen
      exact ⟨x, hx⟩
  rw [← hsize]
  constructor
  · rintro ⟨⟨p, x⟩, hr⟩
    exact ⟨x, (m.exists_tryToResponse_iff b x).mp ⟨p, hr⟩⟩
  · rintro ⟨x, hx⟩
    obtain ⟨p, hp⟩ := (m.exists_tryToResponse_iff b x).mpr hx
    exact ⟨(p, x), hp⟩

end ControlMessage

/-- Every structure with a wire format. -/
inductive WireType
  | transportHeader
  | controlMsgHeader
  | smbusPhysTransportHeader
  | message (m : ControlMessage)
deriving DecidableEq, Repr

namespace WireType

@[reducible] def Carrier : WireType → Type
  | transportHeader => TransportHeader
  | controlMsgHeader => ControlMsgHeader
  | smbusPhysTransportHeader => SmbusPhysTransportHeader
  | message m => m.Carrier

instance : (t : WireType) → FixedCodec t.Carrier
  | transportHeader => inferInstanceAs (FixedCodec TransportHeader)
  | controlMsgHeader => inferInstanceAs (FixedCodec ControlMsgHeader)
  | smbusPhysTransportHeader => inferInstanceAs (FixedCodec SmbusPhysTransportHeader)
  | message m => inferInstanceAs (FixedCodec m.Carrier)

/-- `size_of::<T>()`. -/
def sizeOf (t : WireType) : ℕ := size t.Carrier

/-- `Bytes::from`: headers derive `FromBinary`, messages `FromControlPayload`. -/
def intoBytes : (t : WireType) → t.Carrier → Bytes
  | transportHeader => FromBinary.intoBytes (α := TransportHeader)
  | controlMsgHeader => FromBinary.intoBytes (α := ControlMsgHeader)
  | smbusPhysTransportHeader => FromBinary.intoBytes (α := SmbusPhysTransportHeader)
  | message m => FromControlPayload.intoBytes (α := m.Carrier)

/-- `T::try_from(Bytes)`. -/
def tryFrom : (t : WireType) → Bytes → Except MctpBaseLibError t.Carrier
  | transportHeader => FromBinary.tryFrom TransportHeader
  | controlMsgHeader => FromBinary.tryFrom ControlMsgHeader
  | smbusPhysTransportHeader => FromBinary.tryFrom SmbusPhysTransportHeader
  | message m => FromControlPayload.tryFrom m.Carrier

theorem intoBytes_eq (t : WireType) (x : t.Carrier) : t.intoBytes x = encode x := by
  cases t <;> rfl

theorem tryFrom_eq (t : WireType) (b : Bytes) : t.tryFrom b = trySized t.Carrier b := by
  cases t <;> rfl

/-- Where a format holds its command code. -/
def commandOffset : WireType → Option ℕ
  | transportHeader => none
  | smbusPhysTransportHeader => none
  | controlMsgHeader => some 2
  | message _ => some 2

/-- A command byte outside of `0x00..=0x14` becomes `0xFF`. -/
def canonicalCommand (b : UInt8) : UInt8 := if b ≤ 0x14 then b else 0xFF

/-- The bytes of a format, with an undefined command code replaced. -/
def canonicalBytes (t : WireType) (bs : Bytes) : Bytes :=
  match t.commandOffset with
  | none => bs
  | some i => bs.modify i canonicalCommand

/-- The layout of a control message keeps every byte but the command code. -/
theorem layout_message (m : ControlMessage) :
    layout m.Carrier = id :: id :: (fun b => (CommandCode.fromU8 b).toU8) ::
      List.replicate (m.sizeOf - 3) id := by
  cases m <;> rfl

/-- Reading and writing again gives the canonical bytes. -/
theorem zipWith_layout (t : WireType) {bs : Bytes} (h : bs.length = t.sizeOf) :
    List.zipWith (· ·) (layout t.Carrier) bs = t.canonicalBytes bs := by
  have hcmd : (fun b => (CommandCode.fromU8 b).toU8) = canonicalCommand :=
    funext CommandCode.toU8_fromU8
  -- A layout `id, id, command, id, …` changes the third byte only.
  have key : ∀ k (bs : Bytes), bs.length = k + 3 →
      List.zipWith (· ·) (id :: id :: (fun b => (CommandCode.fromU8 b).toU8) ::
        List.replicate k id) bs = bs.modify 2 canonicalCommand := by
    intro k bs hk
    match bs, hk with
    | b₀ :: b₁ :: b₂ :: rest, hk =>
      obtain rfl : k = rest.length := by simp only [List.length_cons] at hk; omega
      rw [hcmd]
      simp only [List.zipWith_cons_cons, zipWith_replicate_id, List.modify_succ_cons,
        List.modify_zero_cons, id]
  cases t with
  | transportHeader =>
    have hz := zipWith_replicate_id bs
    rwa [h] at hz
  | smbusPhysTransportHeader =>
    have hz := zipWith_replicate_id bs
    rwa [h] at hz
  | controlMsgHeader => exact key 0 bs h
  | message m =>
    have h3 := m.three_le_sizeOf
    have hm : bs.length = m.sizeOf - 3 + 3 := by
      change bs.length = m.sizeOf at h
      omega
    exact (congrArg (List.zipWith _ · bs) (layout_message m)).trans (key _ bs hm)

theorem intoBytes_of_tryFrom (t : WireType) {b : Bytes} {x : t.Carrier} (h : t.tryFrom b = .ok x) :
    t.intoBytes x = t.canonicalBytes (b.take t.sizeOf) := by
  rw [tryFrom_eq] at h
  have hle : size t.Carrier ≤ b.length := by
    by_contra hlt
    rw [trySized_of_lt (Nat.lt_of_not_le hlt)] at h
    cases h
  obtain ⟨y, hy, -, he⟩ := exists_trySized (α := t.Carrier) hle
  obtain rfl : y = x := Except.ok.inj (hy.symm.trans h)
  rw [intoBytes_eq, he]
  exact t.zipWith_layout (by rw [List.length_take]; exact Nat.min_eq_left hle)

/-- **The laws of all wire formats.** Every value is read back from its bytes. Exactly the byte
strings shorter than the structure are refused, always for their size. The result depends on the
first `size_of` bytes, and is written as them up to an undefined command code. For the control
messages, the three ways to decode agree with decoding from offset 4. -/
theorem wireFormats :
    (∀ t : WireType,
      (∀ x : t.Carrier, t.tryFrom (t.intoBytes x) = .ok x) ∧
      (∀ b, (∃ e, t.tryFrom b = .error e) ↔ b.length < t.sizeOf) ∧
      (∀ b e, t.tryFrom b = .error e →
        e = .invalidPayloadSize (toString t.sizeOf) (toString b.length)) ∧
      (∀ b, t.sizeOf ≤ b.length → t.tryFrom (b.take t.sizeOf) = t.tryFrom b) ∧
      ∀ b x, t.tryFrom b = .ok x → t.intoBytes x = t.canonicalBytes (b.take t.sizeOf)) ∧
    ∀ (m : ControlMessage) (b : Bytes),
      (∀ p, ControlPayload.tryFrom b = .ok p →
        FromControlPayload.tryFromControlPayload m.Carrier p =
          (message m).tryFrom (b.drop 4)) ∧
      (∀ x : m.Carrier, (∃ p, ControlPayload.tryToResponse m.Carrier b = .ok (p, x)) ↔
        (message m).tryFrom (b.drop 4) = .ok x) ∧
      ((∃ r, ControlPayload.tryToResponse m.Carrier b = .ok r) ↔ 4 + m.sizeOf ≤ b.length) := by
  refine ⟨fun t => ⟨fun x => ?_, fun b => ?_, fun b e he => ?_, fun b hb => ?_, fun b x hx =>
    t.intoBytes_of_tryFrom hx⟩, fun m b => ⟨fun p hp => m.tryFromControlPayload_eq hp,
    m.exists_tryToResponse_iff b, m.tryToResponse_isOk_iff b⟩⟩
  · rw [tryFrom_eq, intoBytes_eq, trySized_encode]
  · rw [tryFrom_eq, trySized_eq_error_iff, sizeOf]
  · rw [tryFrom_eq] at he
    have hlt := (trySized_eq_error_iff b).mp ⟨e, he⟩
    rw [trySized_of_lt hlt] at he
    exact (Except.error.inj he).symm
  · rw [tryFrom_eq, tryFrom_eq]
    exact trySized_take hb

end WireType

end MctpEmu
