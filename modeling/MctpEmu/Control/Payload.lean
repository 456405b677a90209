import MctpEmu.Control.Models

/-!
# Control payloads

A control packet split into its transport header, its control header and its payload
(`mctp-base-lib/src/control.rs`). The payload starts with the bytes of the control header, which
is therefore held twice; only the raw copy in the payload is written out again.

## Main definitions

* `ControlPayload.tryFrom`, `ControlPayload.intoBytes`, `ControlPayload.tryToResponse`,
  `ControlPayload.commandCode`, `ControlPayload.createResponsePayload`.
* `readRequest`: the request that a packet carries.

## Main results

* `ControlPayload.tryFrom_cons`: the parsed payload of a packet of at least seven bytes.
* `ControlPayload.roundTrip`: parsing and writing a packet gives it back, and writing
  and parsing a payload gives it back exactly when its two copies of the header agree.
-/

namespace MctpEmu

structure ControlPayload where
  hdr : TransportHeader
  controlHdr : ControlMsgHeader
  payload : Bytes
deriving DecidableEq, Repr

/-- `impl TryFrom<ControlPayload> for T` of `#[derive(FromControlPayload)]`. -/
def FromControlPayload.tryFromControlPayload (α : Type) [FixedCodec α] (msg : ControlPayload) :
    Except MctpBaseLibError α :=
  trySized α msg.payload

namespace ControlPayload

/-- `ControlPayload::new`, with the payload already converted to bytes. -/
def new (hdr : TransportHeader) (controlHdr : ControlMsgHeader) (payload : Bytes) :
    ControlPayload :=
  { hdr, controlHdr, payload }

/-- `impl TryFrom<Bytes> for ControlPayload`. -/
def tryFrom (bytes : Bytes) : Except MctpBaseLibError ControlPayload := do
  let hdrSize := FixedCodec.size TransportHeader
  let controlHdrSize := FixedCodec.size ControlMsgHeader
  let totalHdrSize := hdrSize + controlHdrSize
  let msgSize : ℤ := (bytes.length : ℤ) - (totalHdrSize : ℤ)
  if msgSize < 0 then
    throw (.invalidPayloadSize (toString totalHdrSize) (toString bytes.length))
  -- The payload contains the control header and the body.
  let payload := bytes.drop hdrSize
  let hdr ← FromBinary.tryFrom TransportHeader (bytes.take hdrSize)
  let controlHdr ← FromBinary.tryFrom ControlMsgHeader ((bytes.take totalHdrSize).drop hdrSize)
  return new hdr controlHdr payload

/-- `impl From<ControlPayload> for Bytes`. -/
def intoBytes (p : ControlPayload) : Bytes := FromBinary.intoBytes p.hdr ++ p.payload

/-- `impl From<ControlPayload> for Vec<u8>`. -/
def intoVec (p : ControlPayload) : List UInt8 := p.intoBytes

/-- `ControlPayload::try_to_response`. -/
def tryToResponse (α : Type) [FixedCodec α] (bytes : Bytes) :
    Except AnyhowError (ControlPayload × α) := do
  let payload ← withContext "Failed parsing payload" (tryFrom bytes)
  match FromControlPayload.tryFrom α payload.payload with
  | .ok resp => return (payload, resp)
  | .error _ => throw (.msg "Failed parsing response")

/-- `ControlPayload::command_code`. -/
def commandCode (p : ControlPayload) : Except MctpBaseLibError CommandCode :=
  match p.controlHdr.commandCode with
  | .unknown => .error (.unknownValue "Unknown")
  | code => .ok code

/-- `ControlPayload::create_response_payload`. -/
def createResponsePayload (p : ControlPayload) (controlHdr : ControlMsgHeader)
    (responseBody : Bytes) : ControlPayload :=
  new p.hdr.createResponse controlHdr responseBody

/-- A packet of at least seven bytes is parsed byte by byte. -/
theorem tryFrom_cons (b₀ b₁ b₂ b₃ b₄ b₅ b₆ : UInt8) (rest : Bytes) :
    tryFrom (b₀ :: b₁ :: b₂ :: b₃ :: b₄ :: b₅ :: b₆ :: rest) =
      .ok ⟨⟨#v[b₀], b₁, b₂, #v[b₃]⟩, ⟨#v[b₄, b₅], .fromU8 b₆⟩, b₄ :: b₅ :: b₆ :: rest⟩ := by
  have hlen : ¬ (((b₀ :: b₁ :: b₂ :: b₃ :: b₄ :: b₅ :: b₆ :: rest).length : ℤ) - (7 : ℕ) < 0) := by
    simp only [List.length_cons]
    omega
  simp only [tryFrom, TransportHeader.size_eq, ControlMsgHeader.size_eq, Nat.reduceAdd, if_neg hlen]
  rfl

theorem tryFrom_of_lt {bytes : Bytes} (h : bytes.length < 7) :
    tryFrom bytes = .error (.invalidPayloadSize "7" (toString bytes.length)) := by
  have hlen : (bytes.length : ℤ) - (7 : ℕ) < 0 := by omega
  simp only [tryFrom, TransportHeader.size_eq, ControlMsgHeader.size_eq, Nat.reduceAdd, if_pos hlen]
  rfl

/-- The bytes of a list of at least seven elements. -/
theorem exists_eq_cons_of_le {bytes : Bytes} (h : 7 ≤ bytes.length) :
    ∃ b₀ b₁ b₂ b₃ b₄ b₅ b₆ rest,
      bytes = b₀ :: b₁ :: b₂ :: b₃ :: b₄ :: b₅ :: b₆ :: rest := by
  match bytes, h with
  | b₀ :: b₁ :: b₂ :: b₃ :: b₄ :: b₅ :: b₆ :: rest, _ =>
    exact ⟨b₀, b₁, b₂, b₃, b₄, b₅, b₆, rest, rfl⟩

/-- The bytes of a list that has a command byte. -/
theorem exists_eq_cons_of_getElem? {bytes : Bytes} {b₆ : UInt8} (h : bytes[6]? = some b₆) :
    ∃ b₀ b₁ b₂ b₃ b₄ b₅ rest, bytes = b₀ :: b₁ :: b₂ :: b₃ :: b₄ :: b₅ :: b₆ :: rest := by
  obtain ⟨hlt, -⟩ := List.getElem?_eq_some_iff.mp h
  obtain ⟨b₀, b₁, b₂, b₃, b₄, b₅, b, rest, rfl⟩ := exists_eq_cons_of_le hlt
  obtain rfl := Option.some.inj h
  exact ⟨b₀, b₁, b₂, b₃, b₄, b₅, rest, rfl⟩

/-- `try_to_response` succeeds when the packet and then its payload are parsed. -/
theorem tryToResponse_eq_ok_iff {α : Type} [FixedCodec α] {bytes : Bytes} {p : ControlPayload}
    {x : α} : tryToResponse α bytes = .ok (p, x) ↔
      tryFrom bytes = .ok p ∧ FromControlPayload.tryFrom α p.payload = .ok x := by
  unfold tryToResponse
  cases hp : tryFrom bytes with
  | error e => exact ⟨nofun, nofun⟩
  | ok q =>
    change (match FromControlPayload.tryFrom α q.payload with
      | .ok resp => Except.ok (q, resp)
      | .error _ => Except.error (AnyhowError.msg "Failed parsing response")) = .ok (p, x) ↔ _
    cases hx : FromControlPayload.tryFrom α q.payload with
    | error e =>
      refine ⟨nofun, ?_⟩
      rintro ⟨hq, hy⟩
      rw [← Except.ok.inj hq, hx] at hy
      cases hy
    | ok y =>
      constructor
      · intro h
        obtain ⟨rfl, rfl⟩ := Prod.mk.inj (Except.ok.inj h)
        exact ⟨rfl, hx⟩
      · rintro ⟨hq, hy⟩
        obtain rfl := Except.ok.inj hq
        exact congrArg (fun z => Except.ok (q, z)) (Except.ok.inj (hx.symm.trans hy))

/-- A packet is read as a response exactly when it is long enough for both headers and for the
response behind its transport header. -/
theorem exists_tryToResponse_iff (α : Type) [FixedCodec α] (bytes : Bytes) :
    (∃ r, tryToResponse α bytes = .ok r) ↔
      7 ≤ bytes.length ∧ FixedCodec.size α + 4 ≤ bytes.length := by
  simp only [Prod.exists, tryToResponse_eq_ok_iff]
  rcases Nat.lt_or_ge bytes.length 7 with hlt | hle
  · rw [tryFrom_of_lt hlt]
    refine iff_of_false ?_ (by omega)
    rintro ⟨p, x, hp, -⟩
    cases hp
  obtain ⟨b₀, b₁, b₂, b₃, b₄, b₅, b₆, rest, rfl⟩ := exists_eq_cons_of_le hle
  have hiff := trySized_eq_error_iff (α := α) (b₄ :: b₅ :: b₆ :: rest)
  simp only [List.length_cons] at hiff hle ⊢
  rw [tryFrom_cons]
  constructor
  · rintro ⟨p, x, hp, hx⟩
    obtain rfl := Except.ok.inj hp
    refine ⟨hle, ?_⟩
    by_contra hlt
    obtain ⟨e, he⟩ := hiff.mpr (by omega)
    cases he.symm.trans hx
  · rintro ⟨-, hsize⟩
    have hlen : FixedCodec.size α ≤ (b₄ :: b₅ :: b₆ :: rest).length := by
      simp only [List.length_cons]
      omega
    obtain ⟨x, hx, -⟩ := exists_trySized hlen
    exact ⟨_, x, rfl, hx⟩

theorem tryFrom_eq_error_iff (bytes : Bytes) :
    (∃ e, tryFrom bytes = .error e) ↔ bytes.length < 7 := by
  refine ⟨fun ⟨e, he⟩ => ?_, fun h => ⟨_, tryFrom_of_lt h⟩⟩
  by_contra hlt
  obtain ⟨b₀, b₁, b₂, b₃, b₄, b₅, b₆, rest, rfl⟩ := exists_eq_cons_of_le (Nat.le_of_not_lt hlt)
  rw [tryFrom_cons] at he
  cases he

/-- A parsed packet is written back unchanged. -/
theorem intoBytes_of_tryFrom {bytes : Bytes} {p : ControlPayload} (h : tryFrom bytes = .ok p) :
    p.intoBytes = bytes := by
  have hle : 7 ≤ bytes.length := by
    by_contra hlt
    rw [tryFrom_of_lt (Nat.lt_of_not_le hlt)] at h
    cases h
  obtain ⟨b₀, b₁, b₂, b₃, b₄, b₅, b₆, rest, rfl⟩ := exists_eq_cons_of_le hle
  rw [tryFrom_cons] at h
  cases h
  rfl

/-- The written form of a payload is its header in front of its raw payload. -/
theorem intoBytes_new (b₀ b₁ b₂ b₃ : UInt8) (c : ControlMsgHeader) (d : Bytes) :
    (new ⟨#v[b₀], b₁, b₂, #v[b₃]⟩ c d).intoBytes = b₀ :: b₁ :: b₂ :: b₃ :: d := rfl

/-- Writing and parsing a payload gives it back exactly when the control header it stores is the
one its raw payload starts with. -/
theorem tryFrom_intoBytes_new_iff (h : TransportHeader) (c : ControlMsgHeader) (d : Bytes) :
    tryFrom (new h c d).intoBytes = .ok (new h c d) ↔
      3 ≤ d.length ∧ FromBinary.tryFrom ControlMsgHeader (d.take 3) = .ok c := by
  obtain ⟨b₀, b₁, b₂, b₃, rfl⟩ := h.exists_eq_mk
  rw [intoBytes_new]
  rcases Nat.lt_or_ge d.length 3 with hlt | hle
  · rw [tryFrom_of_lt (by simp only [List.length_cons]; omega)]
    constructor
    · intro he
      cases he
    · rintro ⟨hle, -⟩
      omega
  · obtain ⟨d₀, d₁, d₂, rest, rfl⟩ : ∃ d₀ d₁ d₂ rest, d = d₀ :: d₁ :: d₂ :: rest := by
      match d, hle with
      | d₀ :: d₁ :: d₂ :: rest, _ => exact ⟨d₀, d₁, d₂, rest, rfl⟩
    have hctl : FromBinary.tryFrom ControlMsgHeader ((d₀ :: d₁ :: d₂ :: rest).take 3) =
        .ok ⟨#v[d₀, d₁], .fromU8 d₂⟩ := rfl
    rw [tryFrom_cons, hctl]
    constructor
    · intro he
      exact ⟨hle, congrArg Except.ok (congrArg controlHdr (Except.ok.inj he))⟩
    · rintro ⟨-, he⟩
      rw [Except.ok.inj he, new]

/-- **Round trips of a control packet.** Parsing fails exactly below seven bytes and otherwise
loses nothing, whatever the header version, the reserved bits, the command byte and the trailing
bytes are; a built payload is parsed to itself exactly when its two control headers agree. -/
theorem roundTrip :
    (∀ b : Bytes, ((∃ e, tryFrom b = .error e) ↔ b.length < 7) ∧
      ∀ p, tryFrom b = .ok p → p.intoBytes = b ∧ p.intoVec = b) ∧
    ∀ (h : TransportHeader) (c : ControlMsgHeader) (d : Bytes),
      tryFrom (new h c d).intoBytes = .ok (new h c d) ↔
        3 ≤ d.length ∧ FromBinary.tryFrom ControlMsgHeader (d.take 3) = .ok c :=
  ⟨fun b => ⟨tryFrom_eq_error_iff b, fun _ hp =>
    ⟨intoBytes_of_tryFrom hp, intoBytes_of_tryFrom hp⟩⟩, tryFrom_intoBytes_new_iff⟩

end ControlPayload

/-- The request of a command that a packet carries. -/
def readRequest (α : Type) [FixedCodec α] (commandCode : CommandCode) (bytes : Bytes) :
    Option α :=
  match ControlPayload.tryFrom bytes with
  | .error _ => none
  | .ok payload =>
    if payload.controlHdr.commandCode = commandCode then
      (FromControlPayload.tryFromControlPayload α payload).toOption
    else none

theorem readRequest_cons {α : Type} [FixedCodec α] (commandCode : CommandCode)
    (b₀ b₁ b₂ b₃ b₄ b₅ b₆ : UInt8) (rest : Bytes) :
    readRequest α commandCode (b₀ :: b₁ :: b₂ :: b₃ :: b₄ :: b₅ :: b₆ :: rest) =
      if CommandCode.fromU8 b₆ = commandCode then (trySized α (b₄ :: b₅ :: b₆ :: rest)).toOption
      else none := by
  rw [readRequest, ControlPayload.tryFrom_cons]
  rfl

end MctpEmu
