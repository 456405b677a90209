import MctpEmu.Endpoint.Responder
import MctpEmu.Network.SimpleNetwork
import MctpEmu.Phys.BlockWrite

/-!
# The transport task of an endpoint

In `main` of `examples/basic_bus_owner_loop.rs` one task owns the commands that wait for a response.
It sends packets in SMBus frames, completes a pending command with the first packet that fits it,
and passes every other packet to the responder, whatever its message type and its request bit are.

## Main definitions

* `TransportTask`, `TransportTask.sendCmd`, `TransportTask.receiveMsg`: the two commands of the
  task.
* `TransportTask.firstPending`: the pending command that a packet is matched with.
* `IsControlRequest`: a control packet with the request bit.
* `TransportTask.LeavesAlone`: a datagram that completes a pending command or is dropped.

## Main results

* `TransportTask.receiveMsg_of_some`, `TransportTask.receiveMsg_of_none`: what a datagram does, by
  the pending command it is matched with.
* `TransportTask.leavesAlone_iff`: the datagrams that do nothing else.
-/

namespace MctpEmu

/-- What the task captures: whether additions are checked, the packet error code, and the two
addresses. -/
structure TransportConfig where
  overflowChecks : Bool
  pec : Bytes → UInt8
  destAddr7bit : UInt8
  srcAddr7bit : UInt8

/-- The state of the task: its endpoint, and the commands that wait for a response, each with the
number of its one-shot channel. -/
structure TransportTask where
  ctx : MctpEndpointContext
  pendingCmd : List (MsgFlowTag × ℕ)

/-- How the task ends with one command. -/
inductive TaskResult
  | skipped
  | completed (channel : ℕ) (bytes : Bytes)
  | sent (frame : Bytes)
  | refused (error : AnyhowError)
  | panicked (message : String)
deriving DecidableEq, Repr

/-- A datagram with a whole SMBus header and the command code of MCTP. -/
def IsFrame (buf : Bytes) : Prop := 4 ≤ buf.length ∧ buf[1]? = some smbusCommandCodeMctp

instance : DecidablePred IsFrame := fun _ => inferInstanceAs (Decidable (_ ∧ _))

/-- A packet with message type Control and the request bit. -/
def IsControlRequest (packet : Bytes) : Prop :=
  ∃ p, ControlPayload.tryFrom packet = .ok p ∧ p.controlHdr.msgType = 0 ∧ p.controlHdr.rq = 1

namespace TransportTask

/-- `send_cmd_closure` behind the registration: an error of the socket is unwrapped. -/
def transmitFrame (cfg : TransportConfig) (buf : Bytes) (sendResult : Except IoError ℕ) :
    TaskResult :=
  match sendFrame cfg.overflowChecks cfg.pec cfg.destAddr7bit cfg.srcAddr7bit buf with
  | none => .panicked "attempt to add with overflow"
  | some frame =>
    match sendResult with
    | .ok _ => .sent frame
    | .error _ => .panicked "Failed sending message to socket"

/-- `send_cmd_closure`: a packet with a channel is pending before it is sent. -/
def sendCmd (cfg : TransportConfig) (task : TransportTask) (buf : Bytes) (resp : Option ℕ)
    (sendResult : Except IoError ℕ) : TaskResult × TransportTask :=
  match resp with
  | none => (transmitFrame cfg buf sendResult, task)
  | some channel =>
    match createTag buf with
    | none => (.skipped, task)
    | some tag =>
      (transmitFrame cfg buf sendResult,
        { task with pendingCmd := task.pendingCmd ++ [(tag, channel)] })

/-- `PhysicalTransportCommands::ReceiveMsg`, where `isOpen` tells which channels still have their
receiver. Pending commands are compared as the flows of a network are. -/
def receiveMsg (cfg : TransportConfig) (isOpen : ℕ → Bool) (task : TransportTask) (buf : Bytes)
    (sendResult : Except IoError ℕ) : TaskResult × TransportTask :=
  if buf.length < 4 ∨ buf[1]? ≠ some 0x0f then (.skipped, task)
  else
    let respBuf := buf.drop 4
    match createTag respBuf with
    | none => (.skipped, task)
    | some recvTag =>
      let index := task.pendingCmd.findIdx (SimpleNetwork.matchesFlow recvTag)
      match task.pendingCmd[index]? with
      | some (_, resp) =>
        let pendingCmd := task.pendingCmd.eraseIdx index
        -- The send fails without a receiver, and is unwrapped.
        if isOpen resp then (.completed resp respBuf, { task with pendingCmd })
        else (.panicked "called Result::unwrap() on an Err value", { task with pendingCmd })
      | none =>
        match task.ctx.handleRequest respBuf with
        | (.ok resp, ctx) => sendCmd cfg { task with ctx } resp none sendResult
        | (.err e, ctx) => (.refused e, { task with ctx })
        | (.panic message, ctx) => (.panicked message, { task with ctx })

/-- The pending command that a packet is matched with. -/
def firstPending (task : TransportTask) (packet : Bytes) : Option (MsgFlowTag × ℕ) :=
  (createTag packet).bind fun recvTag => task.pendingCmd.find? (SimpleNetwork.matchesFlow recvTag)

theorem firstPending_eq_none {task : TransportTask} (h : task.pendingCmd = []) (packet : Bytes) :
    task.firstPending packet = none := by
  obtain ⟨tag, htag⟩ := exists_createTag packet
  rw [firstPending, htag, Option.bind_some, h, List.find?_nil]

/-- A datagram that is not a frame is what the first check of the task looks for. -/
theorem isFrame_iff (buf : Bytes) : IsFrame buf ↔ ¬ (buf.length < 4 ∨ buf[1]? ≠ some 0x0f) := by
  rw [not_or, not_not, Nat.not_lt]
  rfl

theorem transmitFrame_cases (cfg : TransportConfig) (buf : Bytes)
    (sendResult : Except IoError ℕ) :
    (∃ frame, transmitFrame cfg buf sendResult = .sent frame) ∨
      ∃ message, transmitFrame cfg buf sendResult = .panicked message := by
  unfold transmitFrame
  cases sendFrame cfg.overflowChecks cfg.pec cfg.destAddr7bit cfg.srcAddr7bit buf with
  | none => exact .inr ⟨_, rfl⟩
  | some frame =>
    cases sendResult with
    | ok n => exact .inl ⟨frame, rfl⟩
    | error e => exact .inr ⟨_, rfl⟩

section Receive

variable (cfg : TransportConfig) (isOpen : ℕ → Bool) (task : TransportTask) {buf : Bytes}
  (sendResult : Except IoError ℕ)

theorem receiveMsg_of_not_isFrame (h : ¬ IsFrame buf) :
    receiveMsg cfg isOpen task buf sendResult = (.skipped, task) :=
  if_pos (not_not.mp fun hguard => h ((isFrame_iff buf).mpr hguard))

/-- A packet that fits a pending command takes it off the list. -/
theorem receiveMsg_of_some (hframe : IsFrame buf) {flow : MsgFlowTag × ℕ}
    (h : task.firstPending (buf.drop 4) = some flow) :
    ∃ recvTag, createTag (buf.drop 4) = some recvTag ∧
      task.pendingCmd.find? (SimpleNetwork.matchesFlow recvTag) = some flow ∧
      receiveMsg cfg isOpen task buf sendResult =
        (if isOpen flow.2 then .completed flow.2 (buf.drop 4)
          else .panicked "called Result::unwrap() on an Err value",
          { task with
            pendingCmd := task.pendingCmd.eraseP (SimpleNetwork.matchesFlow recvTag) }) := by
  obtain ⟨recvTag, htag⟩ := exists_createTag (buf.drop 4)
  rw [firstPending, htag, Option.bind_some] at h
  refine ⟨recvTag, htag, h, ?_⟩
  simp only [receiveMsg, if_neg ((isFrame_iff buf).mp hframe), htag, KeyedFifo.getElem?_findIdx,
    KeyedFifo.eraseIdx_findIdx, h]
  split_ifs <;> rfl

/-- A packet that fits no pending command is passed to the responder. -/
theorem receiveMsg_of_none (hframe : IsFrame buf)
    (h : task.firstPending (buf.drop 4) = none) :
    receiveMsg cfg isOpen task buf sendResult =
      match task.ctx.handleRequest (buf.drop 4) with
      | (.ok resp, ctx) => (transmitFrame cfg resp sendResult, { task with ctx })
      | (.err e, ctx) => (.refused e, { task with ctx })
      | (.panic message, ctx) => (.panicked message, { task with ctx }) := by
  obtain ⟨recvTag, htag⟩ := exists_createTag (buf.drop 4)
  rw [firstPending, htag, Option.bind_some] at h
  simp only [receiveMsg, if_neg ((isFrame_iff buf).mp hframe), htag, KeyedFifo.getElem?_findIdx, h]
  rfl

/-- A datagram that fits no pending command completes none, and leaves the pending commands and the
tag counter alone. -/
theorem receiveMsg_of_unmatched
    (h : ¬ IsFrame buf ∨ task.firstPending (buf.drop 4) = none) :
    (∀ channel bytes,
      (receiveMsg cfg isOpen task buf sendResult).1 ≠ .completed channel bytes) ∧
    (receiveMsg cfg isOpen task buf sendResult).2.pendingCmd = task.pendingCmd ∧
    (receiveMsg cfg isOpen task buf sendResult).2.ctx.nextMsgTag = task.ctx.nextMsgTag := by
  by_cases hframe : IsFrame buf
  swap
  · rw [receiveMsg_of_not_isFrame cfg isOpen task sendResult hframe]
    exact ⟨fun _ _ => TaskResult.noConfusion, rfl, rfl⟩
  have htag : (task.ctx.handleRequest (buf.drop 4)).2.nextMsgTag = task.ctx.nextMsgTag := by
    rw [MctpEndpointContext.handleRequest_snd]
  rw [receiveMsg_of_none cfg isOpen task sendResult hframe (h.resolve_left (not_not.mpr hframe))]
  rcases hres : task.ctx.handleRequest (buf.drop 4) with ⟨resp | e | message, ctx⟩
  all_goals rw [hres] at htag
  · refine ⟨fun channel bytes hcompleted => ?_, rfl, htag⟩
    rcases transmitFrame_cases cfg resp sendResult with ⟨frame, hsent⟩ | ⟨message, hpanic⟩
    · cases hsent.symm.trans hcompleted
    · cases hpanic.symm.trans hcompleted
  · exact ⟨fun _ _ => TaskResult.noConfusion, rfl, htag⟩
  · exact ⟨fun _ _ => TaskResult.noConfusion, rfl, htag⟩

/-- A datagram completes a pending command or is dropped: nothing is sent, and neither the EID of
the endpoint nor its flag changes. -/
def LeavesAlone (buf : Bytes) : Prop :=
  ((receiveMsg cfg isOpen task buf sendResult).1 = .skipped ∨
    (∃ e, (receiveMsg cfg isOpen task buf sendResult).1 = .refused e) ∨
    ∃ flow ∈ task.pendingCmd,
      (receiveMsg cfg isOpen task buf sendResult).1 = .completed flow.2 (buf.drop 4)) ∧
  (receiveMsg cfg isOpen task buf sendResult).2.ctx.assignedEid = task.ctx.assignedEid ∧
  (receiveMsg cfg isOpen task buf sendResult).2.ctx.performDiscovery = task.ctx.performDiscovery

/-- A packet that reaches the responder is dropped exactly when it is refused. -/
theorem leavesAlone_iff_isRefused (hframe : IsFrame buf)
    (h : task.firstPending (buf.drop 4) = none) :
    LeavesAlone cfg isOpen task sendResult buf ↔
      MctpEndpointContext.IsRefused (buf.drop 4) := by
  have herr := task.ctx.handleRequest_err_iff (buf.drop 4)
  rw [LeavesAlone, receiveMsg_of_none cfg isOpen task sendResult hframe h, ← herr]
  cases hres : task.ctx.handleRequest (buf.drop 4) with
  | mk result ctx =>
    cases result with
    | ok resp =>
      refine iff_of_false ?_ (fun ⟨e, he⟩ => by cases he)
      rintro ⟨hkind, -⟩
      rcases transmitFrame_cases cfg resp sendResult with ⟨frame, hsent⟩ | ⟨message, hpanic⟩
      · simp [hsent] at hkind
      · simp [hpanic] at hkind
    | err e =>
      have hctx := task.ctx.handleRequest_snd_of_isRefused _ (herr.mp ⟨e, by rw [hres]⟩)
      rw [hres] at hctx
      obtain rfl : ctx = task.ctx := hctx
      exact iff_of_true ⟨.inr (.inl ⟨e, rfl⟩), rfl, rfl⟩ ⟨e, rfl⟩
    | panic message =>
      refine iff_of_false ?_ (fun ⟨e, he⟩ => by cases he)
      rintro ⟨hkind, -⟩
      simp at hkind

/-- A datagram completes a pending command or is dropped exactly when it is no frame, when it fits a
pending command that is waited for, or when it fits none and is too short for its command. -/
theorem leavesAlone_iff :
    LeavesAlone cfg isOpen task sendResult buf ↔
      ¬ IsFrame buf ∨
      (∃ flow, task.firstPending (buf.drop 4) = some flow ∧ isOpen flow.2 = true) ∨
      (task.firstPending (buf.drop 4) = none ∧ MctpEndpointContext.IsRefused (buf.drop 4)) := by
  by_cases hframe : IsFrame buf
  swap
  · refine iff_of_true ?_ (.inl hframe)
    rw [LeavesAlone, receiveMsg_of_not_isFrame cfg isOpen task sendResult hframe]
    exact ⟨.inl rfl, rfl, rfl⟩
  cases hpending : task.firstPending (buf.drop 4) with
  | none =>
    rw [leavesAlone_iff_isRefused cfg isOpen task sendResult hframe hpending]
    simp [hframe]
  | some flow =>
    obtain ⟨recvTag, -, hfind, hreceive⟩ :=
      receiveMsg_of_some cfg isOpen task sendResult hframe hpending
    rw [LeavesAlone, hreceive]
    cases hopen : isOpen flow.2 with
    | true =>
      refine iff_of_true ⟨.inr (.inr ⟨flow, List.mem_of_find?_eq_some hfind, rfl⟩), rfl, rfl⟩ ?_
      exact .inr (.inl ⟨flow, rfl, hopen⟩)
    | false =>
      simp [hframe, hopen]

end Receive

end TransportTask

end MctpEmu
