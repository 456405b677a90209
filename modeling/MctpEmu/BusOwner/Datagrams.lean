import MctpEmu.BusOwner.Correlation
import MctpEmu.BusOwner.Loop

/-!
# The datagrams of a bus owner

The send closure of the transport task writes `buf.len() as u8 + 1` into the byte count, for any
packet that it is given. The packets of a bus owner are those of its senders and the replies of
its responder, whatever arrives, and all of them are short enough for the byte count to be right.

## Main definitions

* `IsPacketSize`: the sizes of the packets that are given to the send closure.
* `Carries`: a datagram whose byte count and packet error code are those of its packet.
* `TransportTask.replies`, `BusOwner.Session.given`: the packets given to the send closure.

## Main results

* `BusOwner.Session.sent_of_step`: what a step sends are the datagrams of the packets given.
* `BusOwner.Session.datagrams_carry`: the datagrams of every run.
* `BusOwner.exists_send_of_mem_history`: the packets of the loop are those of the senders.
-/

namespace MctpEmu

/-- The sizes of requests and replies. -/
def IsPacketSize (n : ℕ) : Prop := 7 ≤ n ∧ n ≤ 11

/-- The datagram has four bytes more than its byte count, the byte count covers the source address
and the packet, and the packet error code is that of all bytes before it. -/
structure Carries (pec : Bytes → UInt8) (packet datagram : Bytes) : Prop where
  byteCount : ∃ count : UInt8, datagram[2]? = some count ∧ datagram.length = count.toNat + 4 ∧
    count.toNat = packet.length + 1
  packet_eq : datagram.dropLast.drop 4 = packet
  pec : datagram.getLast? = some (pec datagram.dropLast)

/-- The byte count of a packet of this size is exact. -/
theorem toNat_byteCount {n : ℕ} (h : IsPacketSize n) : (UInt8.ofNat n + 1).toNat = n + 1 := by
  obtain ⟨-, hle⟩ := h
  rw [UInt8.toNat_add, UInt8.toNat_ofNat']
  change (n % 256 + 1) % 256 = n + 1
  omega

/-- The send closure makes a datagram of every packet of this size, in both kinds of build. -/
theorem exists_sendFrame (overflowChecks : Bool) (pec : Bytes → UInt8)
    (destAddr7bit srcAddr7bit : UInt8) {packet : Bytes} (h : IsPacketSize packet.length) :
    ∃ datagram, sendFrame overflowChecks pec destAddr7bit srcAddr7bit packet = some datagram ∧
      Carries pec packet datagram := by
  have hle : packet.length ≤ 254 := h.2.trans (by decide)
  refine ⟨_, sendFrame_eq_some pec destAddr7bit srcAddr7bit overflowChecks hle, ?_, ?_, ?_⟩
  · have hcount := toNat_byteCount h
    rw [show UInt8.ofNat packet.length + 1 = .ofNat (packet.length + 1) from
      (UInt8.ofNat_add packet.length 1).symm] at hcount
    refine ⟨.ofNat (packet.length + 1), rfl, ?_, hcount⟩
    rw [hcount, List.length_append, List.length_singleton, blockWrite, List.length_append]
    change 4 + packet.length + 1 = packet.length + 1 + 4
    omega
  · rw [List.dropLast_concat]
    rfl
  · rw [List.dropLast_concat, List.getLast?_concat]

/-! ### Packets -/

/-- Replies have eight to eleven bytes. -/
theorem MctpEndpointContext.isPacketSize_handleRequest {ctx : MctpEndpointContext}
    {bytes reply : Bytes} (h : (ctx.handleRequest bytes).1 = .ok reply) :
    IsPacketSize reply.length := by
  obtain ⟨b₀, b₁, b₂, b₃, b₄, b₅, b₆, rest, body, -, hbody, rfl⟩ := handleRequest_eq_ok h
  rw [List.length_append, IsPacketSize]
  change 7 ≤ 8 + body.length ∧ 8 + body.length ≤ 11
  omega

/-- Requests have seven to ten bytes. -/
theorem BusOwner.Request.isPacketSize_send (q : Request) (ctx : MctpEndpointContext) :
    IsPacketSize (q.send ctx).1.length := by
  obtain ⟨b₀, b₁, b₂, b₃, b₄, b₅, hsend⟩ := q.exists_send_eq ctx
  have hbody : q.body.length ≤ 3 := by
    cases q with
    | getEid destEid => exact Nat.zero_le 3
    | setEid eid => exact Nat.le_succ 2
    | allocateEids startingEid numberOfEids => exact le_rfl
  rw [hsend, IsPacketSize]
  simp only [List.length_cons]
  omega

namespace TransportTask

/-- The packets that a datagram gives to the send closure: the reply to a packet that completes no
pending command. -/
def replies (task : TransportTask) (buf : Bytes) : List Bytes :=
  if IsFrame buf ∧ task.firstPending (buf.drop 4) = none then
    match (task.ctx.handleRequest (buf.drop 4)).1 with
    | .ok reply => [reply]
    | .err _ => []
    | .panic _ => []
  else []

variable {task : TransportTask} {buf packet frame : Bytes}

theorem isPacketSize_of_mem_replies (h : packet ∈ task.replies buf) :
    IsPacketSize packet.length := by
  rw [replies] at h
  split_ifs at h
  · cases hreply : (task.ctx.handleRequest (buf.drop 4)).1 with
    | ok reply =>
      rw [hreply] at h
      obtain rfl := List.mem_singleton.mp h
      exact MctpEndpointContext.isPacketSize_handleRequest hreply
    | err e | panic message =>
      rw [hreply] at h
      cases h
  · cases h

/-- A datagram that is sent is made of a packet that was given to the send closure. -/
theorem sendFrame_of_transmitFrame {cfg : TransportConfig} {sendResult : Except IoError ℕ}
    (h : transmitFrame cfg packet sendResult = .sent frame) :
    sendFrame cfg.overflowChecks cfg.pec cfg.destAddr7bit cfg.srcAddr7bit packet = some frame := by
  rw [transmitFrame] at h
  cases hframe : sendFrame cfg.overflowChecks cfg.pec cfg.destAddr7bit cfg.srcAddr7bit packet with
  | none =>
    rw [hframe] at h
    cases h
  | some frame' =>
    rw [hframe] at h
    cases sendResult with
    | ok n => exact congrArg some (TaskResult.sent.inj h)
    | error e => cases h

/-- What a datagram makes the task send are the datagrams of its replies. -/
theorem exists_reply_of_receiveMsg {cfg : TransportConfig} {isOpen : ℕ → Bool}
    {sendResult : Except IoError ℕ}
    (h : (task.receiveMsg cfg isOpen buf sendResult).1 = .sent frame) :
    ∃ packet ∈ task.replies buf,
      sendFrame cfg.overflowChecks cfg.pec cfg.destAddr7bit cfg.srcAddr7bit packet =
        some frame := by
  by_cases hframe : IsFrame buf
  swap
  · rw [receiveMsg_of_not_isFrame cfg isOpen task sendResult hframe] at h
    cases h
  cases hpending : task.firstPending (buf.drop 4) with
  | some flow =>
    obtain ⟨recvTag, -, -, hreceive⟩ :=
      receiveMsg_of_some cfg isOpen task sendResult hframe hpending
    rw [hreceive] at h
    simp only at h
    split_ifs at h
  | none =>
    rw [receiveMsg_of_none cfg isOpen task sendResult hframe hpending] at h
    rw [replies, if_pos ⟨hframe, hpending⟩]
    rcases hres : task.ctx.handleRequest (buf.drop 4) with ⟨reply | e | message, ctx⟩
    · rw [hres] at h
      exact ⟨reply, List.mem_singleton_self reply, sendFrame_of_transmitFrame h⟩
    · rw [hres] at h
      cases h
    · rw [hres] at h
      cases h

end TransportTask

namespace BusOwner

namespace Session

/-- The packets that an event gives to the send closure. -/
def given (s : Session) : Event → List Bytes
  | .transmit _ => ((s.calls[s.results.length]?).map Prod.snd).toList
  | .receive j _ => ((s.replies[j]?).map fun reply => s.task.replies reply.2).getD []
  | .receiveOther buf _ => s.task.replies buf
  | .call _ | .answer .. => []

section Step

variable {cfg : TransportConfig} {s s' : Session} {e : Event}

@[simp] theorem calls_stop (s : Session) : s.stop.calls = s.calls := by
  rw [stop_eq]

@[simp] theorem sent_stop (s : Session) : s.stop.sent = s.sent := by
  rw [stop_eq]

@[simp] theorem calls_handle (s : Session) (reply : Option ℕ)
    (result : TaskResult × TransportTask) : (s.handle reply result).calls = s.calls := by
  rw [handle]
  cases result.1 with
  | panicked message => exact calls_stop _
  | skipped | completed | sent | refused => rfl

/-- Only a result with a frame adds a datagram. -/
theorem sent_handle (s : Session) (reply : Option ℕ) (result : TaskResult × TransportTask) :
    (s.handle reply result).sent = s.sent ∨
      ∃ frame, result.1 = .sent frame ∧ (s.handle reply result).sent = s.sent ++ [frame] := by
  rw [handle]
  cases result.1 with
  | sent frame => exact .inr ⟨frame, rfl, rfl⟩
  | panicked message => exact .inl (sent_stop _)
  | skipped | completed | refused => exact .inl rfl

/-- An endpoint that answers adds a reply, and nothing else. -/
theorem exists_reply_of_answer {k : ℕ} {dest count src : UInt8} {body : Bytes}
    (h : step cfg s (.answer k dest count src body) = some s') :
    ∃ reply, s' = { s with replies := s.replies ++ [reply] } := by
  rw [step] at h
  split_ifs at h
  cases hcall : s.calls[k]? with
  | none =>
    rw [hcall] at h
    cases h
  | some call =>
    simp only [hcall] at h
    cases hrequest : ControlPayload.tryFrom call.2 with
    | error e =>
      rw [hrequest] at h
      cases h
    | ok request =>
      rw [hrequest] at h
      exact ⟨_, (Option.some.inj h).symm⟩

/-- A request is added with the packet of its sender. -/
theorem calls_of_step (h : step cfg s e = some s') :
    s'.calls = s.calls ∨ ∃ q, s'.calls = s.calls ++ [(q, (q.send s.task.ctx).1)] := by
  cases e with
  | call q =>
    rw [step] at h
    split_ifs at h
    obtain rfl := Option.some.inj h
    refine .inr ⟨q, ?_⟩
    simp only [call]
    split_ifs <;> rfl
  | transmit sendResult =>
    rw [step] at h
    split_ifs at h
    obtain ⟨call, -, rfl⟩ := Option.map_eq_some_iff.mp h
    rw [transmit]
    split_ifs
    · exact .inl rfl
    · exact .inl (calls_handle _ _ _)
  | answer k dest count src body =>
    obtain ⟨reply, rfl⟩ := exists_reply_of_answer h
    exact .inl rfl
  | receive j sendResult =>
    rw [step] at h
    split_ifs at h
    obtain ⟨reply, -, rfl⟩ := Option.map_eq_some_iff.mp h
    exact .inl (calls_handle _ _ _)
  | receiveOther buf sendResult =>
    rw [step] at h
    split_ifs at h
    obtain rfl := Option.some.inj h
    exact .inl (calls_handle _ _ _)

/-- The step sends a datagram of a packet that was given to the send closure, or none. -/
def SendsGiven (cfg : TransportConfig) (s : Session) (e : Event) (s' : Session) : Prop :=
  s'.sent = s.sent ∨ ∃ packet ∈ s.given e, ∃ datagram,
    sendFrame cfg.overflowChecks cfg.pec cfg.destAddr7bit cfg.srcAddr7bit packet =
      some datagram ∧ s'.sent = s.sent ++ [datagram]

theorem sendsGiven_receive {reply : Option ℕ} {buf : Bytes}
    (hgiven : s.given e = s.task.replies buf) (sendResult : Except IoError ℕ) :
    SendsGiven cfg s e (s.receive cfg reply buf sendResult) := by
  rcases sent_handle s reply (s.task.receiveMsg cfg s.isOpen buf sendResult) with
    hsame | ⟨frame, hframe, hsent⟩
  · exact .inl hsame
  · obtain ⟨packet, hpacket, hdatagram⟩ := TransportTask.exists_reply_of_receiveMsg hframe
    exact .inr ⟨packet, hgiven ▸ hpacket, frame, hdatagram, hsent⟩

/-- What a step sends is a datagram of a packet that it gives to the send closure. -/
theorem sent_of_step (h : step cfg s e = some s') : SendsGiven cfg s e s' := by
  cases e with
  | call q =>
    rw [step] at h
    split_ifs at h
    obtain rfl := Option.some.inj h
    refine .inl ?_
    simp only [call]
    split_ifs <;> rfl
  | transmit sendResult =>
    rw [step] at h
    split_ifs at h
    obtain ⟨⟨q, packet⟩, hcall, rfl⟩ := Option.map_eq_some_iff.mp h
    rw [transmit]
    split_ifs with hskipped
    · exact .inl rfl
    · rcases sent_handle { s with stage := .waiting } none
        (s.task.sendCmd cfg packet (some s.results.length) sendResult) with
        hsame | ⟨frame, hframe, hsent⟩
      · exact .inl hsame
      · refine .inr ⟨packet, ?_, frame, ?_, hsent⟩
        · rw [given, hcall]
          exact List.mem_singleton_self packet
        · obtain ⟨tag, htag⟩ := exists_createTag packet
          simp only [TransportTask.sendCmd, htag] at hframe
          exact TransportTask.sendFrame_of_transmitFrame hframe
  | answer k dest count src body =>
    obtain ⟨reply, rfl⟩ := exists_reply_of_answer h
    exact .inl rfl
  | receive j sendResult =>
    rw [step] at h
    split_ifs at h
    obtain ⟨reply, hreply, rfl⟩ := Option.map_eq_some_iff.mp h
    refine sendsGiven_receive ?_ sendResult
    rw [given, hreply]
    rfl
  | receiveOther buf sendResult =>
    rw [step] at h
    split_ifs at h
    obtain rfl := Option.some.inj h
    exact sendsGiven_receive rfl sendResult

end Step

/-! ### Runs -/

/-- The requests so far have the sizes of packets, and the datagrams that were sent carry such
packets. -/
structure Sized (cfg : TransportConfig) (s : Session) : Prop where
  calls : ∀ call ∈ s.calls, IsPacketSize call.2.length
  sent : ∀ datagram ∈ s.sent, ∃ packet, IsPacketSize packet.length ∧
    Carries cfg.pec packet datagram

namespace Sized

variable {cfg : TransportConfig} {s s' : Session} {e : Event}

theorem of_mem_given (hs : s.Sized cfg) {packet : Bytes} (h : packet ∈ s.given e) :
    IsPacketSize packet.length := by
  cases e with
  | transmit sendResult =>
    rw [given, Option.mem_toList, Option.map_eq_some_iff] at h
    obtain ⟨call, hcall, rfl⟩ := h
    exact hs.calls call (List.mem_of_getElem? hcall)
  | receive j sendResult =>
    rw [given] at h
    cases hreply : s.replies[j]? with
    | none =>
      rw [hreply] at h
      cases h
    | some reply =>
      rw [hreply] at h
      exact TransportTask.isPacketSize_of_mem_replies h
  | receiveOther buf sendResult => exact TransportTask.isPacketSize_of_mem_replies h
  | call | answer => cases h

/-- Whatever arrives, a step keeps the packets in their bounds. -/
theorem step (hs : s.Sized cfg) (h : Session.step cfg s e = some s') : s'.Sized cfg := by
  constructor
  · intro call hcall
    rcases calls_of_step h with hsame | ⟨q, hmore⟩
    · exact hs.calls call (hsame ▸ hcall)
    · rw [hmore] at hcall
      rcases List.mem_append.mp hcall with hold | hnew
      · exact hs.calls call hold
      · obtain rfl := List.mem_singleton.mp hnew
        exact q.isPacketSize_send s.task.ctx
  · intro datagram hdatagram
    rcases sent_of_step h with hsame | ⟨packet, hpacket, frame, hframe, hmore⟩
    · exact hs.sent datagram (hsame ▸ hdatagram)
    · rw [hmore] at hdatagram
      rcases List.mem_append.mp hdatagram with hold | hnew
      · exact hs.sent datagram hold
      · obtain rfl := List.mem_singleton.mp hnew
        have hsize := hs.of_mem_given hpacket
        obtain ⟨frame', hframe', hcarries⟩ := exists_sendFrame cfg.overflowChecks cfg.pec
          cfg.destAddr7bit cfg.srcAddr7bit hsize
        obtain rfl := Option.some.inj (hframe.symm.trans hframe')
        exact ⟨packet, hsize, hcarries⟩

/-- So does a run. -/
theorem run {C : Session → Event → Prop} {ctx : MctpEndpointContext} {es : List Event}
    (h : StepSystem.Run (Session.step cfg) C (Session.init ctx) es s) : s.Sized cfg := by
  refine h.invariant ⟨fun call hcall => ?_, fun datagram hdatagram => ?_⟩
    fun _ _ _ hs _ hstep => hs.step hstep
  · cases hcall
  · cases hdatagram

end Sized

/-- In every run, whatever arrives, every packet that is given to the send closure has seven to
eleven bytes, so that its byte count is exact and no addition overflows; and every datagram that is
sent carries such a packet. -/
theorem datagrams_carry (cfg : TransportConfig) (ctx : MctpEndpointContext) (es : List Event)
    (s : Session) (h : StepSystem.Run (step cfg) (fun _ _ => True) (init ctx) es s) :
    (∀ e, ∀ packet ∈ s.given e, 7 ≤ packet.length ∧ packet.length ≤ 11 ∧
      (UInt8.ofNat packet.length + 1).toNat = packet.length + 1 ∧
      ∃ datagram, sendFrame cfg.overflowChecks cfg.pec cfg.destAddr7bit cfg.srcAddr7bit packet =
        some datagram ∧ Carries cfg.pec packet datagram) ∧
    ∀ datagram ∈ s.sent, ∃ packet, 7 ≤ packet.length ∧ packet.length ≤ 11 ∧
      Carries cfg.pec packet datagram := by
  have hs := Sized.run h
  constructor
  · intro e packet hpacket
    have hsize := hs.of_mem_given hpacket
    exact ⟨hsize.1, hsize.2, toNat_byteCount hsize, exists_sendFrame _ _ _ _ hsize⟩
  · intro datagram hdatagram
    obtain ⟨packet, hsize, hcarries⟩ := hs.sent datagram hdatagram
    exact ⟨packet, hsize.1, hsize.2, hcarries⟩

/-- Another endpoint asks for the EID. -/
def sampleRequest : Event :=
  .receiveOther [0x20, 0x0F, 0x09, 0x61, 0x01, 0x14, 0x08, 0xC8, 0x00, 0x81, 0x02, 0x5A] (.ok 16)

/-- A request, and the reply to a request of another endpoint. -/
theorem datagrams_carry_exchange :
    ∃ s, StepSystem.Run (step sampleConfig) (fun _ _ => True) (init sampleContext)
        (exchange 0 ++ [sampleRequest]) s ∧
      s.sent.map List.length = [12, 16] ∧
      ∀ datagram ∈ s.sent, ∃ packet, 7 ≤ packet.length ∧ packet.length ≤ 11 ∧
        Carries crc8 packet datagram := by
  have hsent : ((exchange 0 ++ [sampleRequest]).foldlM (step sampleConfig)
      (init sampleContext)).map (fun s => s.sent.map List.length) = some [12, 16] := by
    decide +kernel
  obtain ⟨s, hs, hlengths⟩ := Option.map_eq_some_iff.mp hsent
  have hrun := StepSystem.Run.of_foldlM_eq hs
  exact ⟨s, hrun, hlengths, (datagrams_carry sampleConfig sampleContext _ s hrun).2⟩

end Session

/-! ### The packets of the loop -/

/-- The packets of the loop so far are those of the senders. -/
def State.SendsRequests (s : State) : Prop :=
  ∀ bytes, .request bytes ∈ s.history →
    ∃ (q : Request) (ctx : MctpEndpointContext), bytes = (q.send ctx).1

namespace State.SendsRequests

variable {s : State}

theorem append_messages (hs : s.SendsRequests) (d : Delivery) :
    ({ s with history := s.history ++ messages d } : State).SendsRequests := by
  intro bytes hbytes
  rcases List.mem_append.mp hbytes with hold | hnew
  · exact hs bytes hold
  · cases d with
    | response bytes' => cases List.mem_singleton.mp hnew
    | unsent | abandoned | failed => cases hnew

theorem send (hs : s.SendsRequests) (q : Request) (ctx : MctpEndpointContext) (phase : Phase) :
    (s.send (q.send ctx) phase).SendsRequests := by
  intro bytes hbytes
  rcases List.mem_append.mp hbytes with hold | hnew
  · exact hs bytes hold
  · obtain rfl := Message.request.inj (List.mem_singleton.mp hnew)
    exact ⟨q, ctx, rfl⟩

theorem offerPool (hs : s.SendsRequests) (endpoint : EndpointContext) :
    (s.offerPool endpoint).SendsRequests := by
  rw [State.offerPool]
  split_ifs
  · exact hs.send (.allocateEids endpoint.minDynamicEid endpoint.dynamicEidPoolSize) s.ctx _
  · exact hs

theorem discovered (hs : s.SendsRequests) (overflowChecks : Bool) (d : Delivery) :
    (s.discovered overflowChecks d).SendsRequests := by
  rw [State.discovered]
  split
  · exact hs
  · exact hs
  · split_ifs
    · split
      · exact hs
      · next nextEid hadd =>
        have hnext : ({ s with nextEid } : State).SendsRequests := hs
        exact hnext.send (.setEid s.nextEid) s.ctx _
    · exact hs.offerPool _

theorem assigned (hs : s.SendsRequests) (overflowChecks : Bool) (endpoint : EndpointContext)
    (d : Delivery) : (s.assigned overflowChecks endpoint d).SendsRequests := by
  rw [State.assigned]
  split
  · exact hs
  · exact hs
  · dsimp only
    split_ifs
    · rw [State.reservePool]
      split
      · exact hs
      · split
        · next maxDynamicEid nextEid hsub hadd =>
          have hnext : ({ s with nextEid } : State).SendsRequests := hs
          exact hnext.offerPool _
        · exact hs
    · exact hs.offerPool _

theorem allocated (hs : s.SendsRequests) (d : Delivery) : (s.allocated d).SendsRequests := by
  rw [State.allocated]
  split
  · exact hs
  · exact hs
  · split
    · exact hs
    · split_ifs <;> exact hs

theorem pinged (hs : s.SendsRequests) (d : Delivery) : (s.pinged d).SendsRequests := by
  rw [State.pinged]
  split
  · exact hs
  · exact hs
  · split <;> exact hs

/-- A step sends requests of the loop alone. -/
theorem step (hs : s.SendsRequests) {overflowChecks : Bool} {pingEid : UInt8} {e : Event}
    {s' : State} (h : BusOwner.step overflowChecks pingEid s e = some s') :
    s'.SendsRequests := by
  have hturn (he : e = .turn ∨ e = .wake) : s'.SendsRequests := by
    obtain ⟨phase, -, -, rfl | ⟨ctx, destEid, rfl⟩⟩ := exists_phase_of_step overflowChecks he h
    · exact hs
    · exact hs.send (.getEid destEid) ctx phase
  cases e with
  | turn => exact hturn (.inl rfl)
  | wake => exact hturn (.inr rfl)
  | handleRequest bytes =>
    obtain rfl := Option.some.inj h
    exact hs
  | deliver d =>
    have hmessages := hs.append_messages d
    cases hphase : s.phase with
    | gettingEid =>
      simp only [BusOwner.step, hphase, Option.some.injEq] at h
      exact h ▸ hphase ▸ hmessages.discovered overflowChecks d
    | settingEid endpoint =>
      simp only [BusOwner.step, hphase, Option.some.injEq] at h
      exact h ▸ hphase ▸ hmessages.assigned overflowChecks endpoint d
    | allocatingEids =>
      simp only [BusOwner.step, hphase, Option.some.injEq] at h
      exact h ▸ hphase ▸ hmessages.allocated d
    | pinging =>
      simp only [BusOwner.step, hphase, Option.some.injEq] at h
      exact h ▸ hphase ▸ hmessages.pinged d
    | _ =>
      simp only [BusOwner.step, hphase] at h
      cases h

end State.SendsRequests

/-- The packets of the loop are those of the three senders, in every run. -/
theorem exists_send_of_mem_history {overflowChecks : Bool} {pingEid : UInt8}
    {C : State → Event → Prop} {ctx : MctpEndpointContext} {es : List Event} {s : State}
    (h : StepSystem.Run (step overflowChecks pingEid) C (init ctx) es s) {bytes : Bytes}
    (hbytes : .request bytes ∈ s.history) :
    ∃ (q : Request) (ctx : MctpEndpointContext), bytes = (q.send ctx).1 := by
  have hinit : (init ctx).SendsRequests := fun bytes hbytes => by cases hbytes
  exact h.invariant hinit (fun _ _ _ hs _ hstep => hs.step hstep) bytes hbytes

end BusOwner

end MctpEmu
