import MctpEmu.Endpoint.Responder

/-!
# The EID that an endpoint reports

A Get Endpoint ID reply is meant to report the EID presently assigned, which accepted Set Endpoint
ID requests with operation Set EID or Force EID change. The present EID is read here off the
exchanges of a run, with the decoders of the two commands, and compared with what is reported.

## Main definitions

* `Exchange`: a packet that was answered, with its reply.
* `MctpEndpointContext.exchanges`: the exchanges of a run.
* `presentEid`, `announcedEid`, `Exchange.reportedEid`: the EID that a history assigns, the one
  that its last accepted reply announces, and the one that a reply reports.
* `MctpEndpointContext.ReportsAssigned`: all three agree at every reply of a run.

## Main results

* `MctpEndpointContext.filterMap_exchanges`: what the exchanges of a run show is decided by its
  packets.
* `MctpEndpointContext.reportsAssigned_iff`: the runs in which the three agree.
-/

namespace MctpEmu

/-- A packet that was answered, and its reply. -/
structure Exchange where
  request : Bytes
  reply : Bytes
deriving DecidableEq, Repr

namespace Exchange

/-- A Set Endpoint ID request that was answered as accepted, and its reply. -/
def accepted (x : Exchange) : Option (SetEid.Request × SetEid.Response) :=
  (readRequest SetEid.Request .setEndpointID x.request).bind fun req =>
    match ControlPayload.tryToResponse SetEid.Response x.reply with
    | .ok (_, resp) =>
      if resp.completionCode = CompletionCode.success.toU8 ∧
        resp.eidAssignmentStatus = SetEid.EidAssignmentStatus.accepted.toU8 then some (req, resp)
      else none
    | .error _ => none

/-- The EID that an accepted request sets or forces. -/
def assigned (x : Exchange) : Option UInt8 :=
  x.accepted.bind fun (req, _) =>
    if req.operation = SetEid.Operation.setEid.toU8 ∨
      req.operation = SetEid.Operation.forceEid.toU8 then some req.eid
    else none

/-- The setting that an accepted reply announces. -/
def eidSetting (x : Exchange) : Option UInt8 := x.accepted.map fun (_, resp) => resp.eidSetting

/-- The EID that a successful Get Endpoint ID reply reports. -/
def reportedEid (x : Exchange) : Option UInt8 :=
  (readRequest GetEid.Request .getEndpointID x.request).bind fun _ =>
    match ControlPayload.tryToResponse GetEid.Response x.reply with
    | .ok (_, resp) =>
      if resp.completionCode = CompletionCode.success.toU8 then some resp.eid else none
    | .error _ => none

end Exchange

/-- The EID that the last accepted Set EID or Force EID of a history assigned. -/
def presentEid (initial : UInt8) (history : List Exchange) : UInt8 :=
  (history.filterMap Exchange.assigned).getLastD initial

/-- The setting that the last accepted reply of a history announced. -/
def announcedEid (history : List Exchange) : Option UInt8 :=
  (history.filterMap Exchange.eidSetting).getLast?

namespace MctpEndpointContext

/-- The exchange of a packet that is answered. -/
def exchange (ctx : MctpEndpointContext) (b : Bytes) : Option Exchange :=
  match (ctx.handleRequest b).1 with
  | .ok r => some ⟨b, r⟩
  | _ => none

/-- The exchanges of a run. -/
def exchanges (ctx : MctpEndpointContext) : List Bytes → List Exchange
  | [] => []
  | b :: packets => (ctx.exchange b).toList ++ exchanges (ctx.handleRequest b).2 packets

/-- Every successful Get Endpoint ID reply of a run reports the EID presently assigned, which is
the one that the last accepted Set Endpoint ID reply announced. -/
def ReportsAssigned (ctx : MctpEndpointContext) (packets : List Bytes) : Prop :=
  ∀ before b after, packets = before ++ b :: after →
    ∀ x ∈ (ctx.respond before).exchange b, ∀ eid ∈ x.reportedEid,
      eid = presentEid ctx.assignedEid (ctx.exchanges before) ∧
      ∀ setting ∈ announcedEid (ctx.exchanges before), setting = eid

/-! ### What one exchange shows -/

/-- The EID that a whole Set Endpoint ID packet asks to set or to force. -/
def setOrForcedEid (b : Bytes) : Option UInt8 :=
  if b[7]?.any fun op => op % 4 < 2 then requestedEid b else none

/-- A packet of another command carries no request. -/
theorem readRequest_eq_none {α : Type} [FixedCodec α] {commandCode : CommandCode}
    (hdefined : commandCode ≠ .unknown) {b : Bytes} (h : b[6]? ≠ some commandCode.toU8) :
    readRequest α commandCode b = none := by
  rcases Nat.lt_or_ge b.length 7 with hlt | hge
  · rw [readRequest, ControlPayload.tryFrom_of_lt hlt]
  · obtain ⟨b₀, b₁, b₂, b₃, b₄, b₅, b₆, rest, rfl⟩ := ControlPayload.exists_eq_cons_of_le hge
    rw [readRequest_cons]
    refine if_neg fun hread => h ?_
    exact congrArg some ((CommandCode.fromU8_eq_iff hdefined).mp hread)

theorem exists_eq_cons_cons {tail : Bytes} (h : 2 ≤ tail.length) :
    ∃ b₇ b₈ rest, tail = b₇ :: b₈ :: rest := by
  rcases tail with _ | ⟨b₇, _ | ⟨b₈, rest⟩⟩
  · cases h
  · exact absurd h (Nat.not_le.mpr Nat.one_lt_two)
  · exact ⟨b₇, b₈, rest, rfl⟩

section Exchange

variable (ctx : MctpEndpointContext) (b : Bytes)

theorem exchange_eq_some_iff {x : Exchange} :
    ctx.exchange b = some x ↔ x.request = b ∧ (ctx.handleRequest b).1 = .ok x.reply := by
  obtain ⟨request, reply⟩ := x
  rw [exchange]
  cases (ctx.handleRequest b).1 <;> simp [eq_comm]

/-- Every whole Set Endpoint ID packet is accepted, whatever its operation, and its reply announces
its EID; no other packet is. -/
theorem accepted_exchange :
    (requestedEid b = none ∧ (ctx.exchange b).bind Exchange.accepted = none) ∨
    ∃ op eid req resp, b[7]? = some op ∧ requestedEid b = some eid ∧
      (ctx.exchange b).bind Exchange.accepted = some (req, resp) ∧
      req.operationReserved = #v[op] ∧ req.eid = eid ∧ resp.eidSetting = eid := by
  by_cases hcmd : b[6]? = some CommandCode.setEndpointID.toU8
  · obtain ⟨b₀, b₁, b₂, b₃, b₄, b₅, tail, rfl⟩ :=
      ControlPayload.exists_eq_cons_of_getElem? (show b[6]? = some 0x01 from hcmd)
    rcases Nat.lt_or_ge tail.length 2 with hlt | hge
    · refine .inl ⟨?_, ?_⟩
      · have hnone : tail[1]? = none := List.getElem?_eq_none (Nat.le_of_lt_succ hlt)
        rw [requestedEid, if_pos hcmd]
        exact hnone
      · rw [exchange, handleRequest_setEndpointID_of_lt ctx _ _ _ _ _ _ hlt]
        rfl
    · obtain ⟨b₇, b₈, rest, rfl⟩ := exists_eq_cons_cons hge
      let req : SetEid.Request := ⟨⟨#v[b₄, b₅], .setEndpointID⟩, #v[b₇], b₈⟩
      let resp : SetEid.Response :=
        ⟨⟨#v[b₄, b₅ &&& (0x7F : UInt8)], .setEndpointID⟩, 0, #v[0], b₈, 0⟩
      have hreq : trySized SetEid.Request (b₄ :: b₅ :: 0x01 :: b₇ :: b₈ :: rest) = .ok req := rfl
      have hresp : trySized SetEid.Response (b₄ :: (b₅ &&& (0x7F : UInt8)) :: 0x01 ::
          CompletionCode.success.toU8 :: [0, b₈, 0]) = .ok resp := rfl
      have hstatus : resp.eidAssignmentStatus = SetEid.EidAssignmentStatus.accepted.toU8 := by
        change BitField.getField #v[0] 4 5 = 0
        decide
      obtain ⟨payload, hread, -⟩ :=
        exists_tryToResponse_reply b₁ b₂ b₃ b₄ b₅ 0x01 .success _ hresp
      refine .inr ⟨b₇, b₈, req, resp, rfl, rfl, ?_, rfl, rfl, rfl⟩
      rw [exchange, handleRequest_setEndpointID]
      change Exchange.accepted ⟨_, _⟩ = _
      rw [Exchange.accepted, readRequest_cons, hreq, hread]
      exact if_pos ⟨rfl, hstatus⟩
  · refine .inl ⟨if_neg hcmd, ?_⟩
    cases hx : ctx.exchange b with
    | none => rfl
    | some x =>
      obtain ⟨rfl, -⟩ := (exchange_eq_some_iff ctx b).mp hx
      rw [Option.bind_some, Exchange.accepted,
        readRequest_eq_none (fun h => CommandCode.noConfusion h) hcmd, Option.bind_none]

theorem bind_assigned_exchange :
    (ctx.exchange b).bind Exchange.assigned = setOrForcedEid b := by
  have hbind : (ctx.exchange b).bind Exchange.assigned =
      ((ctx.exchange b).bind Exchange.accepted).bind _ := (Option.bind_assoc ..).symm
  rw [hbind]
  rcases accepted_exchange ctx b with ⟨heid, hnone⟩ | ⟨op, eid, req, resp, hop, heid, hsome, hreq,
    rfl, -⟩
  · rw [hnone, setOrForcedEid, heid]
    simp
  · rw [hsome, setOrForcedEid, heid, hop]
    have hfield : req.operation = BitField.lowBits 2 op := by
      rw [SetEid.Request.operation, BitField.getField_zero _ Nat.one_pos, hreq]
      rfl
    have hop : req.operation = SetEid.Operation.setEid.toU8 ∨
        req.operation = SetEid.Operation.forceEid.toU8 ↔ op % 4 < 2 := by
      rw [hfield, ← UInt8.toNat_inj, ← UInt8.toNat_inj, BitField.toNat_lowBits,
        UInt8.lt_iff_toNat_lt, UInt8.toNat_mod]
      change _ = 0 ∨ _ = 1 ↔ op.toNat % 4 < 2
      omega
    rw [Option.bind_some]
    simp only [hop, Option.any_some, decide_eq_true_eq]

theorem bind_eidSetting_exchange :
    (ctx.exchange b).bind Exchange.eidSetting = requestedEid b := by
  have hbind : (ctx.exchange b).bind Exchange.eidSetting =
      ((ctx.exchange b).bind Exchange.accepted).map fun (_, resp) => resp.eidSetting := by
    cases ctx.exchange b <;> rfl
  rw [hbind]
  rcases accepted_exchange ctx b with ⟨heid, hnone⟩ | ⟨op, eid, req, resp, -, heid, hsome, -, -,
    rfl⟩
  · rw [hnone, heid, Option.map_none]
  · rw [hsome, heid, Option.map_some]

/-- Every Get Endpoint ID packet is answered with EID 0. -/
theorem bind_reportedEid_exchange :
    (ctx.exchange b).bind Exchange.reportedEid =
      if b[6]? = some CommandCode.getEndpointID.toU8 then some 0 else none := by
  split_ifs with hcmd
  · obtain ⟨b₀, b₁, b₂, b₃, b₄, b₅, rest, rfl⟩ :=
      ControlPayload.exists_eq_cons_of_getElem? (show b[6]? = some 0x02 from hcmd)
    have hreq : trySized GetEid.Request (b₄ :: b₅ :: 0x02 :: rest) =
        .ok ⟨⟨#v[b₄, b₅], .getEndpointID⟩⟩ := rfl
    have hresp : trySized GetEid.Response (b₄ :: (b₅ &&& (0x7F : UInt8)) :: 0x02 ::
        CompletionCode.success.toU8 :: [0, 0, 0]) =
        .ok ⟨⟨#v[b₄, b₅ &&& (0x7F : UInt8)], .getEndpointID⟩, 0, 0, #v[0], 0⟩ := rfl
    obtain ⟨payload, hread, -⟩ := exists_tryToResponse_reply b₁ b₂ b₃ b₄ b₅ 0x02 .success _ hresp
    rw [exchange, handleRequest_getEndpointID]
    change Exchange.reportedEid ⟨_, _⟩ = _
    rw [Exchange.reportedEid, readRequest_cons, hreq, hread]
    rfl
  · cases hx : ctx.exchange b with
    | none => rfl
    | some x =>
      obtain ⟨rfl, -⟩ := (exchange_eq_some_iff ctx b).mp hx
      rw [Option.bind_some, Exchange.reportedEid,
        readRequest_eq_none (fun h => CommandCode.noConfusion h) hcmd, Option.bind_none]

end Exchange

/-! ### What a run shows -/

/-- What every exchange shows of its packet, the exchanges of a run show of its packets. -/
theorem filterMap_exchanges {f : Exchange → Option UInt8} {g : Bytes → Option UInt8}
    (h : ∀ ctx b, (exchange ctx b).bind f = g b) (ctx : MctpEndpointContext)
    (packets : List Bytes) : (ctx.exchanges packets).filterMap f = packets.filterMap g := by
  induction packets generalizing ctx with
  | nil => rfl
  | cons b packets ih =>
    have hb := h ctx b
    rw [exchanges, List.filterMap_append, ih]
    cases hx : ctx.exchange b with
    | none =>
      rw [hx, Option.bind_none] at hb
      rw [List.filterMap_cons_none hb.symm]
      rfl
    | some x =>
      rw [hx, Option.bind_some] at hb
      rw [Option.toList_some]
      cases hg : g b with
      | none =>
        rw [List.filterMap_cons_none (hb.trans hg), List.filterMap_cons_none hg]
        rfl
      | some eid =>
        rw [List.filterMap_cons_some (hb.trans hg), List.filterMap_cons_some hg]
        rfl

theorem presentEid_exchanges (ctx : MctpEndpointContext) (packets : List Bytes) :
    presentEid ctx.assignedEid (ctx.exchanges packets) =
      (packets.filterMap setOrForcedEid).getLastD ctx.assignedEid := by
  rw [presentEid, filterMap_exchanges bind_assigned_exchange]

theorem announcedEid_exchanges (ctx : MctpEndpointContext) (packets : List Bytes) :
    announcedEid (ctx.exchanges packets) = (packets.filterMap requestedEid).getLast? := by
  rw [announcedEid, filterMap_exchanges bind_eidSetting_exchange]

/-- Exactly the Get Endpoint ID packets are answered with an EID, which is 0. -/
theorem exists_reportedEid_iff (ctx : MctpEndpointContext) (b : Bytes) (eid : UInt8) :
    (∃ x ∈ ctx.exchange b, eid ∈ x.reportedEid) ↔
      b[6]? = some CommandCode.getEndpointID.toU8 ∧ eid = 0 := by
  have hmem : (ctx.exchange b).bind Exchange.reportedEid = some eid ↔
      ∃ x ∈ ctx.exchange b, eid ∈ x.reportedEid := Option.bind_eq_some_iff
  rw [← hmem, bind_reportedEid_exchange]
  split_ifs with hcmd
  · simp [hcmd, eq_comm]
  · simp [hcmd]

/-- A run that reports what is assigned assigns 0 before it reports. -/
theorem eq_zero_of_reportsAssigned {ctx : MctpEndpointContext} {before after : List Bytes}
    {b : Bytes} (h : ReportsAssigned ctx (before ++ b :: after))
    (hcmd : b[6]? = some CommandCode.getEndpointID.toU8) :
    (before.filterMap setOrForcedEid).getLastD ctx.assignedEid = 0 ∧
      ∀ eid ∈ (before.filterMap requestedEid).getLast?, eid = 0 := by
  obtain ⟨x, hx, heid⟩ := (exists_reportedEid_iff (ctx.respond before) b 0).mpr ⟨hcmd, rfl⟩
  obtain ⟨hpresent, hannounced⟩ := h before b after rfl x hx 0 heid
  rw [presentEid_exchanges] at hpresent
  rw [announcedEid_exchanges] at hannounced
  exact ⟨hpresent.symm, hannounced⟩

/-- Get Endpoint ID replies report the EID presently assigned, and the one that was announced,
exactly when both are 0 whenever a Get Endpoint ID packet arrives. -/
theorem reportsAssigned_iff (ctx : MctpEndpointContext) (packets : List Bytes) :
    ReportsAssigned ctx packets ↔ ∀ before b after, packets = before ++ b :: after →
      b[6]? = some CommandCode.getEndpointID.toU8 →
        (before.filterMap setOrForcedEid).getLastD ctx.assignedEid = 0 ∧
        ∀ eid ∈ (before.filterMap requestedEid).getLast?, eid = 0 := by
  constructor
  · rintro h before b after rfl hcmd
    exact eq_zero_of_reportsAssigned h hcmd
  · intro h before b after hsplit x hx eid heid
    obtain ⟨hcmd, rfl⟩ := (exists_reportedEid_iff (ctx.respond before) b eid).mp ⟨x, hx, heid⟩
    obtain ⟨hpresent, hannounced⟩ := h before b after hsplit hcmd
    rw [presentEid_exchanges, announcedEid_exchanges]
    exact ⟨hpresent.symm, hannounced⟩

/-- An endpoint that was assigned EID 42 reports EID 0. -/
theorem not_reportsAssigned : ¬ ∀ ctx packets, ReportsAssigned ctx packets := by
  intro h
  have hrun := h ⟨0, false, 0x80, 32, 1, 1⟩
    ([[0x01, 0x00, 0x08, 0xC8, 0x00, 0x80, 0x01, 0x00, 0x2A]] ++
      [0x01, 0x2A, 0x08, 0xC9, 0x00, 0x81, 0x02] :: [])
  exact absurd (eq_zero_of_reportsAssigned hrun rfl).1 (by decide)

end MctpEndpointContext

end MctpEmu
