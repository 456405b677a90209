import MctpEmu.Control.Payload

/-!
# The responder of an endpoint

An endpoint answers a control request through `MctpEndpointContext::handle_request` of
`examples/basic_bus_owner_loop.rs`. Four commands are implemented, the other known ones are
answered as unsupported, and a command byte outside of the known range reaches a `todo!()`.

## Main definitions

* `MctpEndpointContext`: the counters and flags of an endpoint.
* `MctpEndpointContext.handleRequest`: the answer to a packet, and the state afterwards.
* `MctpEndpointContext.replyHead`: the eight bytes that every reply starts with.
* `MctpEndpointContext.Arm`: the arm that a packet reaches, by its bytes.

## Main results

* `handleRequest_setEndpointID` and its siblings: the bytes of the reply of every arm.
* `handleRequest_mirrors`: every reply carries the addressing, the instance id and the command of
  its request.
-/

namespace MctpEmu

/-- The state of an endpoint: the fields of the context that the control protocol reads or
writes. -/
structure MctpEndpointContext where
  assignedEid : UInt8
  performDiscovery : Bool
  minEidInPool : UInt8
  eidPoolSize : UInt8
  nextMsgTag : UInt8
  nextInstanceId : UInt8
deriving DecidableEq, Repr

namespace MctpEndpointContext

/-- `MctpEndpointContext::handle_request`. -/
def handleRequest (ctx : MctpEndpointContext) (bytes : Bytes) :
    Outcome AnyhowError Bytes × MctpEndpointContext :=
  match withContext "Failed parsing payload" (ControlPayload.tryFrom bytes) with
  | .error e => (.err e, ctx)
  | .ok payload =>
    match payload.commandCode with
    | .ok .setEndpointID =>
      match withContext "Failed parsing SetEndpointID msg"
          (FromControlPayload.tryFromControlPayload SetEid.Request payload) with
      | .error e => (.err e, ctx)
      | .ok req =>
        let ctx := { ctx with assignedEid := req.eid }
        let resp := SetEid.Response.ofRequest req .success .noPoolSupport .accepted
          ctx.assignedEid 0
        let respPayload :=
          payload.createResponsePayload resp.hdr (FromControlPayload.intoBytes resp)
        (.ok respPayload.intoBytes, ctx)
    | .ok .getEndpointID =>
      match withContext "Failed parsing GetEid msg"
          (FromControlPayload.tryFromControlPayload GetEid.Request payload) with
      | .error e => (.err e, ctx)
      | .ok req =>
        -- The reply reports EID 0, not the assigned one.
        let resp := GetEid.Response.ofRequest req .success 0x00 .dynamic .simple 0
        let respPayload :=
          payload.createResponsePayload resp.hdr (FromControlPayload.intoBytes resp)
        (.ok respPayload.intoBytes, ctx)
    | .ok .discoveryNotify =>
      match withContext "Failed parsing GetEid msg"
          (FromControlPayload.tryFromControlPayload EmptyRequest payload) with
      | .error e => (.err e, ctx)
      | .ok req =>
        let resp := EmptyResponse.ofRequest req .success
        let respPayload :=
          payload.createResponsePayload resp.hdr (FromControlPayload.intoBytes resp)
        (.ok respPayload.intoBytes, { ctx with performDiscovery := true })
    | .ok .getRoutingTableEntries =>
      match withContext "Failed parsing GetRoutingTable msg"
          (FromControlPayload.tryFromControlPayload GetRoutingTable.Request payload) with
      | .error e => (.err e, ctx)
      | .ok req =>
        let resp := GetRoutingTable.Response.ofRequest req .success 0xff 0
        let respPayload :=
          payload.createResponsePayload resp.hdr (FromControlPayload.intoBytes resp)
        (.ok respPayload.intoBytes, ctx)
    | .ok _ =>
      match withContext "Failed parsing GetEid msg"
          (FromControlPayload.tryFromControlPayload EmptyRequest payload) with
      | .error e => (.err e, ctx)
      | .ok req =>
        let resp := EmptyResponse.ofRequest req .errorUnsupportedCmd
        let respPayload :=
          payload.createResponsePayload resp.hdr (FromControlPayload.intoBytes resp)
        (.ok respPayload.intoBytes, ctx)
    | .error _ => (.panic "not yet implemented", ctx)

/-! ### The bytes of a reply -/

/-- The eight bytes that every reply starts with: the transport header with the addresses
swapped, the control header with the request bit cleared, and the completion code. -/
def replyHead (b₁ b₂ b₃ b₄ b₅ b₆ : UInt8) (completionCode : CompletionCode) : Bytes :=
  [1, b₂, b₁, (0xC0 : UInt8) ||| (b₃ &&& (0x07 : UInt8)) ||| (~~~b₃ &&& (0x08 : UInt8)), b₄,
    b₅ &&& (0x7F : UInt8), b₆, completionCode.toU8]

/-- A response packet is a response header in front of the response. -/
theorem intoBytes_createResponsePayload (b₀ b₁ b₂ b₃ : UInt8) (c c' : ControlMsgHeader)
    (d d' : Bytes) :
    (ControlPayload.createResponsePayload ⟨⟨#v[b₀], b₁, b₂, #v[b₃]⟩, c, d⟩ c' d').intoBytes =
      1 :: b₂ :: b₁ :: ((0xC0 : UInt8) ||| (b₃ &&& (0x07 : UInt8)) |||
        (~~~b₃ &&& (0x08 : UInt8))) :: d' := by
  rw [ControlPayload.createResponsePayload, TransportHeader.createResponse_mk,
    ControlPayload.intoBytes_new]

/-- The command bytes that have an arm of their own. -/
def implementedCommands : Bytes :=
  [CommandCode.setEndpointID.toU8, CommandCode.getEndpointID.toU8,
    CommandCode.discoveryNotify.toU8, CommandCode.getRoutingTableEntries.toU8]

/-- The header of a response: that of the request, with the request bit cleared. -/
theorem encode_setRq_zero (b₄ b₅ b₆ : UInt8) :
    FixedCodec.encode ((⟨#v[b₄, b₅], .fromU8 b₆⟩ : ControlMsgHeader).setRq 0) =
      [b₄, b₅ &&& (0x7F : UInt8), (CommandCode.fromU8 b₆).toU8] := by
  change FixedCodec.encode ((⟨#v[b₄, b₅], .fromU8 b₆⟩ : ControlMsgHeader).setRq 0
    ).msgTypeIntegrityCheckInstanceIdRsvdDBitRq ++ [_] = _
  rw [ControlMsgHeader.flags_setRq_zero, FixedCodec.encode_array_two]
  rfl

/-- A payload shorter than the request is refused under the context of its arm. -/
theorem withContext_tryFromControlPayload_of_lt {α : Type} [FixedCodec α] (p : ControlPayload)
    (message : String) (h : p.payload.length < FixedCodec.size α) :
    withContext message (FromControlPayload.tryFromControlPayload α p) =
      .error (.context message (.base (.invalidPayloadSize (toString (FixedCodec.size α))
        (toString p.payload.length)))) := by
  rw [FromControlPayload.tryFromControlPayload, trySized_of_lt h]
  rfl

section Arms

variable (ctx : MctpEndpointContext) (b₀ b₁ b₂ b₃ b₄ b₅ b₆ b₇ b₈ : UInt8) (rest : Bytes)

/-- A packet without a whole control header is refused. -/
theorem handleRequest_of_lt {bytes : Bytes} (h : bytes.length < 7) :
    ctx.handleRequest bytes = (.err (.context "Failed parsing payload"
      (.base (.invalidPayloadSize "7" (toString bytes.length)))), ctx) := by
  rw [handleRequest, ControlPayload.tryFrom_of_lt h]
  rfl

/-- The reply of an arm, from the request header and the bytes that follow the response header. -/
theorem intoBytes_reply (c : ControlMsgHeader) (d body : Bytes) (cc : CompletionCode) :
    (ControlPayload.createResponsePayload ⟨⟨#v[b₀], b₁, b₂, #v[b₃]⟩, c, d⟩
      ((⟨#v[b₄, b₅], .fromU8 b₆⟩ : ControlMsgHeader).setRq 0)
      (FixedCodec.encode ((⟨#v[b₄, b₅], .fromU8 b₆⟩ : ControlMsgHeader).setRq 0) ++
        ([cc.toU8] ++ body))).intoBytes =
      replyHead b₁ b₂ b₃ b₄ b₅ (CommandCode.fromU8 b₆).toU8 cc ++ body := by
  rw [intoBytes_createResponsePayload, encode_setRq_zero]
  rfl

theorem handleRequest_setEndpointID :
    ctx.handleRequest (b₀ :: b₁ :: b₂ :: b₃ :: b₄ :: b₅ :: 0x01 :: b₇ :: b₈ :: rest) =
      (.ok (replyHead b₁ b₂ b₃ b₄ b₅ 0x01 .success ++ [0, b₈, 0]),
        { ctx with assignedEid := b₈ }) := by
  rw [handleRequest, ControlPayload.tryFrom_cons]
  exact congrArg (fun r => (Outcome.ok r, { ctx with assignedEid := b₈ }))
    (intoBytes_reply b₀ b₁ b₂ b₃ b₄ b₅ 0x01 _ _ [0, b₈, 0] .success)

/-- A Set Endpoint ID request without its two body bytes is refused. -/
theorem handleRequest_setEndpointID_of_lt {tail : Bytes} (h : tail.length < 2) :
    ctx.handleRequest (b₀ :: b₁ :: b₂ :: b₃ :: b₄ :: b₅ :: 0x01 :: tail) =
      (.err (.context "Failed parsing SetEndpointID msg"
        (.base (.invalidPayloadSize "5" (toString (tail.length + 3))))), ctx) := by
  have hlen : (b₄ :: b₅ :: 0x01 :: tail).length < FixedCodec.size SetEid.Request := by
    change tail.length + 3 < 5
    omega
  have hreq := withContext_tryFromControlPayload_of_lt
    ⟨⟨#v[b₀], b₁, b₂, #v[b₃]⟩, ⟨#v[b₄, b₅], .fromU8 0x01⟩, b₄ :: b₅ :: 0x01 :: tail⟩
    "Failed parsing SetEndpointID msg" hlen
  have hcmd : CommandCode.fromU8 0x01 = .setEndpointID := rfl
  simp only [handleRequest, ControlPayload.tryFrom_cons, withContext_ok,
    ControlPayload.commandCode, hcmd] at hreq ⊢
  rw [hreq]
  rfl

/-- Get Endpoint ID is answered with EID 0, whatever was assigned. -/
theorem handleRequest_getEndpointID :
    ctx.handleRequest (b₀ :: b₁ :: b₂ :: b₃ :: b₄ :: b₅ :: 0x02 :: rest) =
      (.ok (replyHead b₁ b₂ b₃ b₄ b₅ 0x02 .success ++ [0, 0, 0]), ctx) := by
  rw [handleRequest, ControlPayload.tryFrom_cons]
  exact congrArg (fun r => (Outcome.ok r, ctx))
    (intoBytes_reply b₀ b₁ b₂ b₃ b₄ b₅ 0x02 _ _ [0, 0, 0] .success)

theorem handleRequest_discoveryNotify :
    ctx.handleRequest (b₀ :: b₁ :: b₂ :: b₃ :: b₄ :: b₅ :: 0x0D :: rest) =
      (.ok (replyHead b₁ b₂ b₃ b₄ b₅ 0x0D .success), { ctx with performDiscovery := true }) := by
  rw [handleRequest, ControlPayload.tryFrom_cons]
  exact congrArg (fun r => (Outcome.ok r, { ctx with performDiscovery := true }))
    (intoBytes_reply b₀ b₁ b₂ b₃ b₄ b₅ 0x0D _ _ [] .success)

theorem handleRequest_getRoutingTableEntries :
    ctx.handleRequest (b₀ :: b₁ :: b₂ :: b₃ :: b₄ :: b₅ :: 0x0A :: b₇ :: rest) =
      (.ok (replyHead b₁ b₂ b₃ b₄ b₅ 0x0A .success ++ [0xff, 0]), ctx) := by
  rw [handleRequest, ControlPayload.tryFrom_cons]
  exact congrArg (fun r => (Outcome.ok r, ctx))
    (intoBytes_reply b₀ b₁ b₂ b₃ b₄ b₅ 0x0A _ _ [0xff, 0] .success)

/-- A Get Routing Table Entries request without its entry handle is refused. -/
theorem handleRequest_getRoutingTableEntries_of_lt {tail : Bytes} (h : tail.length < 1) :
    ctx.handleRequest (b₀ :: b₁ :: b₂ :: b₃ :: b₄ :: b₅ :: 0x0A :: tail) =
      (.err (.context "Failed parsing GetRoutingTable msg"
        (.base (.invalidPayloadSize "4" (toString (tail.length + 3))))), ctx) := by
  have hlen : (b₄ :: b₅ :: 0x0A :: tail).length < FixedCodec.size GetRoutingTable.Request := by
    change tail.length + 3 < 4
    omega
  have hreq := withContext_tryFromControlPayload_of_lt
    ⟨⟨#v[b₀], b₁, b₂, #v[b₃]⟩, ⟨#v[b₄, b₅], .fromU8 0x0A⟩, b₄ :: b₅ :: 0x0A :: tail⟩
    "Failed parsing GetRoutingTable msg" hlen
  have hcmd : CommandCode.fromU8 0x0A = .getRoutingTableEntries := rfl
  simp only [handleRequest, ControlPayload.tryFrom_cons, withContext_ok,
    ControlPayload.commandCode, hcmd] at hreq ⊢
  rw [hreq]
  rfl

/-- Every other defined command is answered as unsupported. -/
theorem handleRequest_unsupported {b₆ : UInt8} (hle : b₆ ≤ 0x14)
    (hother : b₆ ∉ implementedCommands) :
    ctx.handleRequest (b₀ :: b₁ :: b₂ :: b₃ :: b₄ :: b₅ :: b₆ :: rest) =
      (.ok (replyHead b₁ b₂ b₃ b₄ b₅ b₆ .errorUnsupportedCmd), ctx) := by
  obtain ⟨c, rfl⟩ : ∃ c : CommandCode, b₆ = c.toU8 := by
    refine ⟨.fromU8 b₆, ?_⟩
    rw [CommandCode.toU8_fromU8, if_pos hle]
  have hreply := intoBytes_reply b₀ b₁ b₂ b₃ b₄ b₅ c.toU8
    ⟨#v[b₄, b₅], c⟩ (b₄ :: b₅ :: c.toU8 :: rest) [] .errorUnsupportedCmd
  rw [handleRequest, ControlPayload.tryFrom_cons, CommandCode.fromU8_toU8]
  cases c with
  | setEndpointID => exact absurd (by decide) hother
  | getEndpointID => exact absurd (by decide) hother
  | discoveryNotify => exact absurd (by decide) hother
  | getRoutingTableEntries => exact absurd (by decide) hother
  | unknown => exact absurd hle (by decide)
  | _ => exact congrArg (fun r => (Outcome.ok r, ctx)) hreply

/-- A command byte outside of the defined range is not handled. -/
theorem handleRequest_unknown {b₆ : UInt8} (hgt : ¬ b₆ ≤ 0x14) :
    ctx.handleRequest (b₀ :: b₁ :: b₂ :: b₃ :: b₄ :: b₅ :: b₆ :: rest) =
      (.panic "not yet implemented", ctx) := by
  rw [handleRequest, ControlPayload.tryFrom_cons, (CommandCode.fromU8_eq_unknown_iff b₆).mpr hgt]
  rfl

end Arms

/-- A reply is decoded to its control header and the response behind its transport header. -/
theorem exists_tryToResponse_reply {α : Type} [FixedCodec α] (b₁ b₂ b₃ b₄ b₅ b₆ : UInt8)
    (completionCode : CompletionCode) (body : Bytes) {resp : α}
    (h : trySized α (b₄ :: (b₅ &&& (0x7F : UInt8)) :: b₆ :: completionCode.toU8 :: body) =
      .ok resp) :
    ∃ payload, ControlPayload.tryToResponse α
        (replyHead b₁ b₂ b₃ b₄ b₅ b₆ completionCode ++ body) = .ok (payload, resp) ∧
      payload.controlHdr = ⟨#v[b₄, b₅ &&& (0x7F : UInt8)], .fromU8 b₆⟩ :=
  ⟨_, ControlPayload.tryToResponse_eq_ok_iff.mpr ⟨ControlPayload.tryFrom_cons .., h⟩, rfl⟩

/-! ### The arms by the bytes of a packet -/

/-- The arm that a packet reaches. -/
inductive Arm : Bytes → Prop
  | short {bytes : Bytes} (h : bytes.length < 7) : Arm bytes
  | setEndpointID (b₀ b₁ b₂ b₃ b₄ b₅ b₇ b₈ : UInt8) (rest : Bytes) :
      Arm (b₀ :: b₁ :: b₂ :: b₃ :: b₄ :: b₅ :: 0x01 :: b₇ :: b₈ :: rest)
  | setEndpointIDShort (b₀ b₁ b₂ b₃ b₄ b₅ : UInt8) {tail : Bytes} (h : tail.length < 2) :
      Arm (b₀ :: b₁ :: b₂ :: b₃ :: b₄ :: b₅ :: 0x01 :: tail)
  | getEndpointID (b₀ b₁ b₂ b₃ b₄ b₅ : UInt8) (rest : Bytes) :
      Arm (b₀ :: b₁ :: b₂ :: b₃ :: b₄ :: b₅ :: 0x02 :: rest)
  | discoveryNotify (b₀ b₁ b₂ b₃ b₄ b₅ : UInt8) (rest : Bytes) :
      Arm (b₀ :: b₁ :: b₂ :: b₃ :: b₄ :: b₅ :: 0x0D :: rest)
  | getRoutingTableEntries (b₀ b₁ b₂ b₃ b₄ b₅ b₇ : UInt8) (rest : Bytes) :
      Arm (b₀ :: b₁ :: b₂ :: b₃ :: b₄ :: b₅ :: 0x0A :: b₇ :: rest)
  | getRoutingTableEntriesShort (b₀ b₁ b₂ b₃ b₄ b₅ : UInt8) {tail : Bytes}
      (h : tail.length < 1) : Arm (b₀ :: b₁ :: b₂ :: b₃ :: b₄ :: b₅ :: 0x0A :: tail)
  | unsupported (b₀ b₁ b₂ b₃ b₄ b₅ : UInt8) {b₆ : UInt8} (rest : Bytes) (hle : b₆ ≤ 0x14)
      (hother : b₆ ∉ implementedCommands) :
      Arm (b₀ :: b₁ :: b₂ :: b₃ :: b₄ :: b₅ :: b₆ :: rest)
  | unknown (b₀ b₁ b₂ b₃ b₄ b₅ : UInt8) {b₆ : UInt8} (rest : Bytes) (hgt : ¬ b₆ ≤ 0x14) :
      Arm (b₀ :: b₁ :: b₂ :: b₃ :: b₄ :: b₅ :: b₆ :: rest)

/-- Every packet reaches an arm. -/
theorem arm (bytes : Bytes) : Arm bytes := by
  rcases Nat.lt_or_ge bytes.length 7 with hlt | hge
  · exact .short hlt
  obtain ⟨b₀, b₁, b₂, b₃, b₄, b₅, b₆, rest, rfl⟩ := ControlPayload.exists_eq_cons_of_le hge
  by_cases hle : b₆ ≤ 0x14
  swap
  · exact .unknown b₀ b₁ b₂ b₃ b₄ b₅ rest hle
  by_cases himpl : b₆ ∈ implementedCommands
  swap
  · exact .unsupported b₀ b₁ b₂ b₃ b₄ b₅ rest hle himpl
  -- One arm for each of the four implemented commands.
  obtain rfl | rfl | rfl | rfl : b₆ = 0x01 ∨ b₆ = 0x02 ∨ b₆ = 0x0D ∨ b₆ = 0x0A := by
    simpa only [implementedCommands, CommandCode.toU8, List.mem_cons, List.not_mem_nil,
      or_false] using himpl
  · match rest with
    | [] => exact .setEndpointIDShort b₀ b₁ b₂ b₃ b₄ b₅ Nat.two_pos
    | [_] => exact .setEndpointIDShort b₀ b₁ b₂ b₃ b₄ b₅ Nat.one_lt_two
    | b₇ :: b₈ :: rest => exact .setEndpointID b₀ b₁ b₂ b₃ b₄ b₅ b₇ b₈ rest
  · exact .getEndpointID b₀ b₁ b₂ b₃ b₄ b₅ rest
  · exact .discoveryNotify b₀ b₁ b₂ b₃ b₄ b₅ rest
  · match rest with
    | [] => exact .getRoutingTableEntriesShort b₀ b₁ b₂ b₃ b₄ b₅ Nat.one_pos
    | b₇ :: rest => exact .getRoutingTableEntries b₀ b₁ b₂ b₃ b₄ b₅ b₇ rest

/-- A packet is answered only if it has a whole control header and a defined command, and then
with the common head followed by at most three bytes. -/
theorem handleRequest_eq_ok {ctx : MctpEndpointContext} {bytes r : Bytes}
    (h : (ctx.handleRequest bytes).1 = .ok r) :
    ∃ b₀ b₁ b₂ b₃ b₄ b₅ b₆ rest body,
      bytes = b₀ :: b₁ :: b₂ :: b₃ :: b₄ :: b₅ :: b₆ :: rest ∧ body.length ≤ 3 ∧
      r = replyHead b₁ b₂ b₃ b₄ b₅ b₆
        (if b₆ ∈ implementedCommands then .success else .errorUnsupportedCmd) ++ body := by
  cases arm bytes with
  | short hlt =>
    rw [handleRequest_of_lt ctx hlt] at h
    cases h
  | setEndpointID b₀ b₁ b₂ b₃ b₄ b₅ b₇ b₈ rest =>
    rw [handleRequest_setEndpointID] at h
    exact ⟨b₀, b₁, b₂, b₃, b₄, b₅, 0x01, b₇ :: b₈ :: rest, [0, b₈, 0], rfl, le_rfl,
      (Outcome.ok.inj h).symm⟩
  | setEndpointIDShort b₀ b₁ b₂ b₃ b₄ b₅ hlt =>
    rw [handleRequest_setEndpointID_of_lt _ _ _ _ _ _ _ hlt] at h
    cases h
  | getEndpointID b₀ b₁ b₂ b₃ b₄ b₅ rest =>
    rw [handleRequest_getEndpointID] at h
    exact ⟨b₀, b₁, b₂, b₃, b₄, b₅, 0x02, rest, [0, 0, 0], rfl, le_rfl, (Outcome.ok.inj h).symm⟩
  | discoveryNotify b₀ b₁ b₂ b₃ b₄ b₅ rest =>
    rw [handleRequest_discoveryNotify] at h
    exact ⟨b₀, b₁, b₂, b₃, b₄, b₅, 0x0D, rest, [], rfl, Nat.zero_le 3, (Outcome.ok.inj h).symm⟩
  | getRoutingTableEntries b₀ b₁ b₂ b₃ b₄ b₅ b₇ rest =>
    rw [handleRequest_getRoutingTableEntries] at h
    exact ⟨b₀, b₁, b₂, b₃, b₄, b₅, 0x0A, b₇ :: rest, [0xff, 0], rfl, Nat.le_succ 2,
      (Outcome.ok.inj h).symm⟩
  | getRoutingTableEntriesShort b₀ b₁ b₂ b₃ b₄ b₅ hlt =>
    rw [handleRequest_getRoutingTableEntries_of_lt _ _ _ _ _ _ _ hlt] at h
    cases h
  | @unsupported b₀ b₁ b₂ b₃ b₄ b₅ b₆ rest hle hother =>
    rw [handleRequest_unsupported ctx b₀ b₁ b₂ b₃ b₄ b₅ rest hle hother] at h
    refine ⟨b₀, b₁, b₂, b₃, b₄, b₅, b₆, rest, [], rfl, Nat.zero_le 3, ?_⟩
    rw [if_neg hother]
    exact (Outcome.ok.inj h).symm
  | unknown b₀ b₁ b₂ b₃ b₄ b₅ rest hgt =>
    rw [handleRequest_unknown ctx b₀ b₁ b₂ b₃ b₄ b₅ rest hgt] at h
    cases h

/-- **A reply mirrors its request.** Whichever arm built it, the reply swaps the addresses, keeps
the tag with the other tag owner, keeps the instance id and the command with the request bit
cleared, and reports success exactly for the implemented commands. -/
theorem handleRequest_mirrors (ctx : MctpEndpointContext) (b r : Bytes)
    (h : (ctx.handleRequest b).1 = .ok r) :
    7 ≤ b.length ∧ 8 ≤ r.length ∧ r.length ≤ 11 ∧
    r[0]? = some 1 ∧ r[1]? = b[2]? ∧ r[2]? = b[1]? ∧
    r[3]? = b[3]?.map (fun f =>
      (0xC0 : UInt8) ||| (f &&& (0x07 : UInt8)) ||| (~~~f &&& (0x08 : UInt8))) ∧
    r[4]? = b[4]? ∧ r[5]? = b[5]?.map (fun f => f &&& (0x7F : UInt8)) ∧ r[6]? = b[6]? ∧
    r[7]? = b[6]?.map (fun c => if c ∈ implementedCommands then CompletionCode.success.toU8
      else CompletionCode.errorUnsupportedCmd.toU8) := by
  obtain ⟨b₀, b₁, b₂, b₃, b₄, b₅, b₆, rest, body, rfl, hbody, rfl⟩ := handleRequest_eq_ok h
  have hlen : (replyHead b₁ b₂ b₃ b₄ b₅ b₆
      (if b₆ ∈ implementedCommands then .success else .errorUnsupportedCmd) ++ body).length =
      8 + body.length := by
    rw [List.length_append]
    rfl
  refine ⟨?_, ?_, ?_, rfl, rfl, rfl, rfl, rfl, rfl, rfl, ?_⟩
  · simp only [List.length_cons]
    omega
  · omega
  · omega
  · change some (CompletionCode.toU8 (if b₆ ∈ implementedCommands then _ else _)) = some _
    rw [apply_ite CompletionCode.toU8]

/-- A Set Endpoint ID request is answered at byte 7 with success. -/
theorem handleRequest_mirrors_setEndpointID :
    ∃ r : Bytes, (handleRequest ⟨0, false, 0x80, 32, 1, 1⟩
        [0x01, 0x0A, 0x14, 0xCD, 0x00, 0x83, 0x01, 0x00, 0x2A]).1 = .ok r ∧
      r[1]? = some 0x14 ∧ r[2]? = some 0x0A ∧ r[3]? = some 0xC5 ∧ r[5]? = some 0x03 ∧
      r[7]? = some 0x00 := by
  have hok := congrArg Prod.fst (handleRequest_setEndpointID ⟨0, false, 0x80, 32, 1, 1⟩
    0x01 0x0A 0x14 0xCD 0x00 0x83 0x00 0x2A [])
  obtain ⟨-, -, -, -, h₁, h₂, h₃, -, h₅, -, h₇⟩ := handleRequest_mirrors _ _ _ hok
  exact ⟨_, hok, h₁, h₂, h₃, h₅, h₇⟩

end MctpEndpointContext

end MctpEmu
