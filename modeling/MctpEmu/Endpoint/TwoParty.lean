import MctpEmu.Endpoint.TransportTask
import MctpEmu.Library.StepSystem

/-!
# Two endpoints against each other

Two endpoints run their transport tasks at the two ends of a pair of sockets, and neither waits for
a response. A datagram may overtake another one or be lost; it is delivered at most once. The task
passes a response to the responder as it passes a request, so that a datagram that is answered once
is answered without end.

## Main definitions

* `TwoParty`, `TwoParty.step`: the two tasks, the datagrams on their way, and the number of packets
  that were sent.
* `TransportTask.IsAnswered`: the datagrams that a task with nothing pending answers.

## Main results

* `TransportTask.receiveMsg_of_isAnswered`: the answer is answered in turn.
* `TwoParty.exists_run_sent_eq`: any number of packets is sent in return.
* `TwoParty.answersOnlyRequests_iff`: the datagrams that are left alone, and the initial datagrams
  that cause at most one packet in return.
-/

namespace MctpEmu

namespace TransportTask

/-- A frame around a packet that is long enough for its command and has a defined command. -/
def IsAnswered (buf : Bytes) : Prop :=
  IsFrame buf ∧ ¬ MctpEndpointContext.IsRefused (buf.drop 4) ∧
    ∀ c, (buf.drop 4)[6]? = some c → c ≤ 0x14

/-- A packet of nine bytes or more is long enough for every command. -/
theorem not_isRefused_of_le {b : Bytes} (h : 9 ≤ b.length) :
    ¬ MctpEndpointContext.IsRefused b := by
  rintro (hlt | ⟨-, hlt⟩ | ⟨-, hlt⟩) <;> omega

section Receive

variable (cfg : TransportConfig) (isOpen : ℕ → Bool) {task : TransportTask} {buf : Bytes}

/-- Nothing is sent for any other datagram. -/
theorem receiveMsg_ne_sent (hpending : task.pendingCmd = []) (h : ¬ IsAnswered buf)
    (sendResult : Except IoError ℕ) (frame : Bytes) :
    (receiveMsg cfg isOpen task buf sendResult).1 ≠ .sent frame := by
  by_cases hframe : IsFrame buf
  swap
  · rw [receiveMsg_of_not_isFrame cfg isOpen task sendResult hframe]
    exact TaskResult.noConfusion
  have hnone : ¬ ∃ r, (task.ctx.handleRequest (buf.drop 4)).1 = .ok r := fun hreply =>
    h ⟨hframe, (MctpEndpointContext.handleRequest_ok_iff _ _).mp hreply⟩
  rw [receiveMsg_of_none cfg isOpen task sendResult hframe (firstPending_eq_none hpending _)]
  rcases hres : task.ctx.handleRequest (buf.drop 4) with ⟨resp | e | message, ctx⟩
  · exact absurd ⟨resp, by rw [hres]⟩ hnone
  · exact TaskResult.noConfusion
  · exact TaskResult.noConfusion

/-- **The answer is answered in turn.** It has the command of the packet, and it is long enough for
every command. -/
theorem receiveMsg_of_isAnswered (hpending : task.pendingCmd = []) (h : IsAnswered buf) (n : ℕ) :
    ∃ frame, (receiveMsg cfg isOpen task buf (.ok n)).1 = .sent frame ∧ IsAnswered frame := by
  obtain ⟨hframe, hpacket⟩ := h
  obtain ⟨r, hr⟩ := (task.ctx.handleRequest_ok_iff (buf.drop 4)).mpr hpacket
  obtain ⟨-, hle, hle', -, -, -, -, -, -, hcommand, -⟩ :=
    task.ctx.handleRequest_mirrors (buf.drop 4) r hr
  have hlen : r.length ≤ 254 := by omega
  have hsend := sendFrame_eq_some cfg.pec cfg.destAddr7bit cfg.srcAddr7bit cfg.overflowChecks hlen
  rw [receiveMsg_of_none cfg isOpen task _ hframe (firstPending_eq_none hpending _)]
  rcases hres : task.ctx.handleRequest (buf.drop 4) with ⟨result, ctx⟩
  obtain rfl : result = .ok r := by rw [← hr, hres]
  refine ⟨blockWrite cfg.destAddr7bit cfg.srcAddr7bit r ++
    [cfg.pec (blockWrite cfg.destAddr7bit cfg.srcAddr7bit r)], ?_, ⟨?_, rfl⟩, ?_, ?_⟩
  · simp only [transmitFrame, hsend]
  · simp only [List.length_append, blockWrite, List.length_cons]
    omega
  · refine not_isRefused_of_le ?_
    change 9 ≤ (r ++ [_]).length
    rw [List.length_append, List.length_singleton]
    omega
  · intro c hc
    change (r ++ [_])[6]? = some c at hc
    rw [List.getElem?_append_left (by omega), hcommand] at hc
    exact hpacket.2 c hc

end Receive

end TransportTask

/-- Two endpoints, which of them are still running, the datagrams on their way with the endpoint
that each is for, and the number of packets that were sent. -/
structure TwoParty where
  tasks : Bool → TransportTask
  running : Bool → Bool
  inFlight : List (Bool × Bytes)
  sent : ℕ

namespace TwoParty

open TransportTask

/-- The datagram at a place in the list arrives; the socket answers to what is sent for it. -/
structure Arrival where
  index : ℕ
  sendResult : Except IoError ℕ

section

variable (cfg : Bool → TransportConfig) (isOpen : ℕ → Bool)

/-- A datagram arrives at the endpoint that it is for, and an answer goes to the other one. -/
def step (s : TwoParty) (e : Arrival) : Option TwoParty :=
  match s.inFlight[e.index]? with
  | none => none
  | some (side, buf) =>
    if s.running side then
      let received := receiveMsg (cfg side) isOpen (s.tasks side) buf e.sendResult
      let s' := { s with
        tasks := Function.update s.tasks side received.2
        inFlight := s.inFlight.eraseIdx e.index }
      match received.1 with
      | .sent frame =>
        some { s' with inFlight := s'.inFlight ++ [(!side, frame)], sent := s'.sent + 1 }
      | .panicked _ => some { s' with running := Function.update s.running side false }
      | _ => some s'
    else none

/-- Nothing is pending, and one datagram is on its way. -/
def init (ctx : Bool → MctpEndpointContext) (side : Bool) (datagram : Bytes) : TwoParty where
  tasks := fun side => ⟨ctx side, []⟩
  running := fun _ => true
  inFlight := [(side, datagram)]
  sent := 0

/-- What is asked for of two endpoints: the initial packet causes at most one packet in return. -/
def RepliesAtMostOnce (ctx : Bool → MctpEndpointContext) (side : Bool) (datagram : Bytes) : Prop :=
  ∀ es s, StepSystem.Run (step cfg isOpen) (fun _ _ => True) (init ctx side datagram) es s →
    s.sent ≤ 1

/-- Neither endpoint waits for a response. -/
def Idle (s : TwoParty) : Prop := ∀ side, (s.tasks side).pendingCmd = []

/-- Nothing on its way is answered, and nothing was sent. -/
structure Quiet (s : TwoParty) : Prop where
  idle : s.Idle
  not_isAnswered : ∀ d ∈ s.inFlight, ¬ IsAnswered d.2
  sent_eq : s.sent = 0

/-- One datagram is on its way, and its endpoint will answer it. -/
structure Busy (s : TwoParty) : Prop where
  idle : s.Idle
  running : ∀ side, s.running side = true
  exists_inFlight : ∃ side frame, s.inFlight = [(side, frame)] ∧ IsAnswered frame

/-- An endpoint with nothing pending stays so, whatever arrives. -/
theorem Idle.update {s : TwoParty} (h : s.Idle) (side : Bool) (buf : Bytes)
    (sendResult : Except IoError ℕ) (side' : Bool) :
    (Function.update s.tasks side
      (receiveMsg (cfg side) isOpen (s.tasks side) buf sendResult).2 side').pendingCmd = [] := by
  rcases eq_or_ne side' side with rfl | hne
  · have hkeep := receiveMsg_of_unmatched (cfg side') isOpen (s.tasks side') sendResult
      (.inr (firstPending_eq_none (h side') (buf.drop 4)))
    rw [Function.update_self, hkeep.2.1]
    exact h side'
  · rw [Function.update_of_ne hne]
    exact h side'

variable {cfg isOpen} in
/-- Nothing comes of a datagram that is not answered. -/
theorem Quiet.step {s s' : TwoParty} {e : Arrival} (h : s.Quiet)
    (hs : step cfg isOpen s e = some s') : s'.Quiet := by
  cases hget : s.inFlight[e.index]? with
  | none =>
    rw [TwoParty.step, hget] at hs
    exact absurd hs.symm (Option.some_ne_none s')
  | some d =>
    obtain ⟨side, buf⟩ := d
    have hidle := h.idle.update cfg isOpen side buf e.sendResult
    have hkeep (d : Bool × Bytes) (hd : d ∈ s.inFlight.eraseIdx e.index) : ¬ IsAnswered d.2 :=
      h.not_isAnswered d (List.mem_of_mem_eraseIdx hd)
    have hsent := receiveMsg_ne_sent (cfg side) isOpen (h.idle side)
      (h.not_isAnswered _ (List.mem_of_getElem? hget)) e.sendResult
    simp only [TwoParty.step, hget] at hs
    split_ifs at hs
    split at hs
    · rename_i frame hframe
      exact absurd hframe (hsent frame)
    all_goals
      obtain rfl := Option.some.inj hs
      exact ⟨hidle, hkeep, h.sent_eq⟩

/-- The answer takes the place of the datagram. -/
theorem Busy.exists_step {s : TwoParty} (h : s.Busy) :
    ∃ s', step cfg isOpen s ⟨0, .ok 0⟩ = some s' ∧ s'.Busy ∧ s'.sent = s.sent + 1 := by
  obtain ⟨side, buf, hinFlight, hanswered⟩ := h.exists_inFlight
  obtain ⟨frame, hsent, hframe⟩ :=
    receiveMsg_of_isAnswered (cfg side) isOpen (h.idle side) hanswered 0
  have hidle := h.idle.update cfg isOpen side buf (.ok 0)
  refine ⟨⟨Function.update s.tasks side
      (receiveMsg (cfg side) isOpen (s.tasks side) buf (.ok 0)).2,
    s.running, [(!side, frame)], s.sent + 1⟩, ?_,
    ⟨hidle, h.running, !side, frame, rfl, hframe⟩, rfl⟩
  simp only [TwoParty.step, hinFlight, List.getElem?_cons_zero, h.running, if_true, hsent,
    List.eraseIdx_cons_zero, List.nil_append]

/-- **An endless exchange.** Any number of packets is sent in return for a datagram that is
answered. -/
theorem exists_run_sent_eq (ctx : Bool → MctpEndpointContext) (side : Bool) {datagram : Bytes}
    (h : IsAnswered datagram) (n : ℕ) :
    ∃ es s, StepSystem.Run (step cfg isOpen) (fun _ _ => True) (init ctx side datagram) es s ∧
      s.Busy ∧ s.sent = n := by
  induction n with
  | zero =>
    exact ⟨[], _, .nil, ⟨fun _ => rfl, fun _ => rfl, side, datagram, rfl, h⟩, rfl⟩
  | succ n ih =>
    obtain ⟨es, s, hrun, hbusy, rfl⟩ := ih
    obtain ⟨s', hs, hbusy', hsent⟩ := hbusy.exists_step cfg isOpen
    exact ⟨_, s', hrun.snoc hs trivial, hbusy', hsent⟩

/-- An initial datagram causes at most one packet in return exactly when it causes none. -/
theorem repliesAtMostOnce_iff (ctx : Bool → MctpEndpointContext) (side : Bool)
    (datagram : Bytes) :
    RepliesAtMostOnce cfg isOpen ctx side datagram ↔ ¬ IsAnswered datagram := by
  constructor
  · intro h hanswered
    obtain ⟨es, s, hrun, -, hsent⟩ := exists_run_sent_eq cfg isOpen ctx side hanswered 2
    have hle := h es s hrun
    omega
  · intro h es s hrun
    have hquiet : (init ctx side datagram).Quiet := by
      refine ⟨fun _ => rfl, fun d hd => ?_, rfl⟩
      obtain rfl := List.mem_singleton.mp hd
      exact h
    have hend := hrun.invariant hquiet fun _ _ _ hI _ hs => hI.step hs
    rw [hend.sent_eq]
    exact Nat.zero_le 1

end

/-- A packet that is no control request completes a pending command or is dropped exactly when its
datagram is no frame, when it fits a pending command that is waited for, or when it fits none and is
too short for its command. Between two endpoints with nothing pending, a datagram causes at most one
packet in return exactly when it is no frame or its packet has no reply. -/
theorem leavesAlone_and_repliesAtMostOnce_iff (cfg : Bool → TransportConfig) (isOpen : ℕ → Bool)
    (side : Bool) (task : TransportTask) (ctx : Bool → MctpEndpointContext)
    (sendResult : Except IoError ℕ) (datagram : Bytes) :
    (¬ IsControlRequest (datagram.drop 4) →
      (LeavesAlone (cfg side) isOpen task sendResult datagram ↔
        ¬ IsFrame datagram ∨
        (∃ flow, task.firstPending (datagram.drop 4) = some flow ∧ isOpen flow.2 = true) ∨
        (task.firstPending (datagram.drop 4) = none ∧
          MctpEndpointContext.IsRefused (datagram.drop 4)))) ∧
    (RepliesAtMostOnce cfg isOpen ctx side datagram ↔ ¬ IsAnswered datagram) :=
  ⟨fun _ => leavesAlone_iff (cfg side) isOpen task sendResult,
    repliesAtMostOnce_iff cfg isOpen ctx side datagram⟩

/-- A response to Get Endpoint ID completes the request that is pending. -/
theorem leavesAlone_and_repliesAtMostOnce_iff_pending :
    LeavesAlone ⟨true, crc8, 0x30, 0x10⟩ (fun _ => true)
      ⟨⟨8, false, 0x80, 32, 2, 2⟩, [(⟨0x14, 8, 1, true⟩, 0)]⟩ (.ok 0)
      [0x20, 0x0F, 0x0D, 0x61, 0x01, 0x08, 0x14, 0xC1, 0x00, 0x01, 0x02, 0x00, 0x14, 0x00, 0x00,
        0x5A] := by
  refine ((leavesAlone_and_repliesAtMostOnce_iff (fun _ => ⟨true, crc8, 0x30, 0x10⟩) _ true _
    (fun _ => ⟨8, false, 0x80, 32, 2, 2⟩) _ _).1 ?_).mpr (.inr (.inl ⟨_, rfl, rfl⟩))
  rintro ⟨p, hp, -, hrq⟩
  obtain rfl := Except.ok.inj ((ControlPayload.tryFrom_cons ..).symm.trans hp)
  exact absurd hrq (by decide)

/-- A response to Set Endpoint ID that no request waits for: it overwrites the assigned EID with its
status byte, and the exchange does not end. -/
theorem not_leavesAlone_lateResponse :
    let datagram := [0x20, 0x0F, 0x0D, 0x61, 0x01, 0x08, 0x14, 0xC1, 0x00, 0x01, 0x01, 0x00, 0x00,
      0x2A, 0x00, 0x5A]
    let cfg : TransportConfig := ⟨true, crc8, 0x30, 0x10⟩
    let ctx : Bool → MctpEndpointContext := fun side =>
      if side then ⟨8, false, 0x80, 32, 2, 2⟩ else ⟨0x14, false, 0x80, 32, 1, 1⟩
    ¬ IsControlRequest (datagram.drop 4) ∧
      ¬ LeavesAlone cfg (fun _ => true) ⟨ctx true, []⟩ (.ok 0) datagram ∧
      (receiveMsg cfg (fun _ => true) ⟨ctx true, []⟩ datagram (.ok 0)).2.ctx.assignedEid = 0 ∧
      ¬ RepliesAtMostOnce (fun _ => cfg) (fun _ => true) ctx true datagram := by
  refine ⟨?_, ?_, ?_, ?_⟩
  · rintro ⟨p, hp, -, hrq⟩
    obtain rfl := Except.ok.inj ((ControlPayload.tryFrom_cons ..).symm.trans hp)
    exact absurd hrq (by decide)
  · rw [leavesAlone_iff]
    decide
  · rfl
  · rw [repliesAtMostOnce_iff, not_not]
    refine ⟨⟨by decide, rfl⟩, by decide, ?_⟩
    rintro c ⟨⟩
    decide

end TwoParty

end MctpEmu
