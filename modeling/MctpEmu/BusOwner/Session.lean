import MctpEmu.BusOwner.Responses
import MctpEmu.Endpoint.TransportTask
import MctpEmu.Library.StepSystem
import MctpEmu.Network.Replies

/-!
# The bus owner and its transport task

The senders of the bus owner hand their packets to the transport task and wait for its answer, one
request after another. The other endpoints answer the packets that were handed over, and the network
delivers their replies late, in any order and any number of times, but never changes them.

## Main definitions

* `BusOwner.Session`: the requests so far with their packets, what came back to each, and the
  replies that were made.
* `BusOwner.replyDatagram`: a reply that is made from the headers of its request.
* `BusOwner.Session.step`: a call, a transmission, a reply or a reception.
* `BusOwner.Session.WellFormed`: what holds in every state that is reached.
* `BusOwner.Session.Transition`: what a step does to the requests.

## Main results

* `BusOwner.Session.transition_of_step`: every step is one of the transitions.
* `BusOwner.Session.wellFormed_run`: the invariant in every run.
-/

namespace MctpEmu

namespace BusOwner

/-- The datagram of a reply that is made from the headers of its request: the response to the
transport header, the control header with the request bit cleared, and any body. The packet error
code is part of the body. -/
def replyDatagram (dest count src : UInt8) (request : ControlPayload) (body : Bytes) : Bytes :=
  let controlHdr := request.controlHdr.setRq 0
  [dest, smbusCommandCodeMctp, count, src] ++ (request.createResponsePayload controlHdr
    (FromControlPayload.intoBytes controlHdr ++ body)).intoBytes

/-- Where the last request stands. -/
inductive Stage
  | idle
  /-- Its packet is in the channel to the task. -/
  | queued
  /-- The task has registered its packet. -/
  | waiting
deriving DecidableEq, Repr

/-- The requests and their packets, what came back to those that have returned, and the replies
that were made, each with the request that it answers. What came back is kept with the reply that
it was taken from. -/
structure Session where
  task : TransportTask
  running : Bool
  stage : Stage
  calls : List (Request × Bytes)
  results : List (Option ℕ × Delivery)
  replies : List (ℕ × Bytes)
  sent : List Bytes

namespace Session

inductive Event
  | call (q : Request)
  /-- The task takes the packet out of the channel. -/
  | transmit (sendResult : Except IoError ℕ)
  /-- An endpoint answers the packet of a request. -/
  | answer (request : ℕ) (dest count src : UInt8) (body : Bytes)
  /-- A reply arrives, not necessarily for the first time. -/
  | receive (reply : ℕ) (sendResult : Except IoError ℕ)
  /-- Another datagram arrives. -/
  | receiveOther (buf : Bytes) (sendResult : Except IoError ℕ)

/-- Only the channel of the request that waits has a receiver. -/
def isOpen (s : Session) (channel : ℕ) : Bool := s.stage = .waiting ∧ channel = s.results.length

/-- The sender of the last request returns. -/
def finish (s : Session) (reply : Option ℕ) (d : Delivery) : Session :=
  { s with stage := .idle, results := s.results ++ [(reply, d)] }

/-- The task ends, and its pending commands are dropped. -/
def stop (s : Session) : Session :=
  let s := { s with task := { s.task with pendingCmd := [] }, running := false }
  if s.stage = .idle then s else s.finish none .abandoned

/-- The task ends with a command; `reply` is the reply that it was given. -/
def handle (s : Session) (reply : Option ℕ) (result : TaskResult × TransportTask) : Session :=
  let s := { s with task := result.2 }
  match result.1 with
  | .skipped | .refused _ => s
  | .completed _ bytes => s.finish reply (.response bytes)
  | .sent frame => { s with sent := s.sent ++ [frame] }
  | .panicked _ => s.stop

/-- A sender builds its packet and hands it over, which fails when the task has ended. -/
def call (s : Session) (q : Request) : Session :=
  let (packet, ctx) := q.send s.task.ctx
  let s := { s with
    task := { s.task with ctx }
    stage := .queued
    calls := s.calls ++ [(q, packet)] }
  if s.running then s else s.finish none .unsent

/-- The task takes the packet; without a tag it would drop the channel. -/
def transmit (cfg : TransportConfig) (s : Session) (packet : Bytes)
    (sendResult : Except IoError ℕ) : Session :=
  let result := s.task.sendCmd cfg packet (some s.results.length) sendResult
  if result.1 = .skipped then s.finish none .abandoned
  else { s with stage := .waiting }.handle none result

def receive (cfg : TransportConfig) (s : Session) (reply : Option ℕ) (buf : Bytes)
    (sendResult : Except IoError ℕ) : Session :=
  s.handle reply (s.task.receiveMsg cfg s.isOpen buf sendResult)

/-- One step of the sender, the task or another endpoint. A packet is answered only after the task
has taken it. -/
def step (cfg : TransportConfig) (s : Session) : Event → Option Session
  | .call q => if s.stage = .idle then some (s.call q) else none
  | .transmit sendResult =>
    if s.running ∧ s.stage = .queued then
      (s.calls[s.results.length]?).map fun call => s.transmit cfg call.2 sendResult
    else none
  | .answer k dest count src body =>
    if s.stage = .queued ∧ k = s.results.length then none
    else
      match s.calls[k]? with
      | none => none
      | some (_, packet) =>
        match ControlPayload.tryFrom packet with
        | .error _ => none
        | .ok request => some { s with
            replies := s.replies ++ [(k, replyDatagram dest count src request body)] }
  | .receive j sendResult =>
    if s.running then
      (s.replies[j]?).map fun reply => s.receive cfg (some j) reply.2 sendResult
    else none
  | .receiveOther buf sendResult =>
    if s.running then some (s.receive cfg none buf sendResult) else none

def init (ctx : MctpEndpointContext) : Session where
  task := ⟨ctx, []⟩
  running := true
  stage := .idle
  calls := []
  results := []
  replies := []
  sent := []

/-! ### The invariant -/

/-- A reply that was made from the packet of a request. -/
def IsReply (s : Session) (k : ℕ) (buf : Bytes) : Prop :=
  ∃ q packet request dest count src body, s.calls[k]? = some (q, packet) ∧
    ControlPayload.tryFrom packet = .ok request ∧ buf = replyDatagram dest count src request body

/-- Only the last request can be on its way; each packet has the tag of its place; and the task
waits for the packet of the request that waits, and for no other one. -/
structure WellFormed (t₀ : UInt8) (s : Session) : Prop where
  length_calls : s.calls.length = s.results.length + if s.stage = .idle then 0 else 1
  nextMsgTag : s.task.ctx.nextMsgTag = t₀ + .ofNat s.calls.length
  call : ∀ (i : ℕ) q packet, s.calls[i]? = some (q, packet) → ∃ client payload,
    client.tag = t₀ + .ofNat i ∧ packet = SimpleNetwork.packet client q.destEid payload
  reply : ∀ (j k : ℕ) buf, s.replies[j]? = some (k, buf) → s.IsReply k buf
  source : ∀ (i j : ℕ) d, s.results[i]? = some (some j, d) → j < s.replies.length
  pendingCmd_eq_nil : s.stage ≠ .waiting → s.task.pendingCmd = []
  pendingCmd_eq : s.stage = .waiting → ∃ q packet tag,
    s.calls[s.results.length]? = some (q, packet) ∧ createTag packet = some tag ∧
    s.task.pendingCmd = [(tag, s.results.length)]

/-- A datagram that completes the request that waits. -/
def Fits (s : Session) (buf : Bytes) : Prop :=
  IsFrame buf ∧ s.task.firstPending (buf.drop 4) ≠ none

/-- The datagram that an event delivers, with the number that it has if it is a reply. -/
def Event.datagram (s : Session) : Event → Option (Option ℕ × Bytes)
  | .receive j _ => (s.replies[j]?).map fun reply => (some j, reply.2)
  | .receiveOther buf _ => some (none, buf)
  | _ => none

/-- A reply is delivered as it was made. -/
theorem exists_reply_of_datagram {s : Session} {e : Event} {j : ℕ} {buf : Bytes}
    (h : e.datagram s = some (some j, buf)) : ∃ k, s.replies[j]? = some (k, buf) := by
  cases e with
  | receive j' sendResult =>
    obtain ⟨⟨k, buf'⟩, hreply, hlast⟩ := Option.map_eq_some_iff.mp h
    obtain ⟨hj, rfl⟩ := Prod.mk.inj hlast
    obtain rfl := Option.some.inj hj
    exact ⟨k, hreply⟩
  | call | transmit | answer | receiveOther => cases h

/-- What an event does, up to the endpoint's own state and the datagrams that it sends. -/
inductive Transition (s : Session) (e : Event) : Session → Prop
  | queue {q : Request} (he : e = .call q) (hstage : s.stage = .idle) {packet : Bytes}
      {client : Client} {payload : Bytes} (htag : client.tag = s.task.ctx.nextMsgTag)
      (hpacket : packet = SimpleNetwork.packet client q.destEid payload) (task : TransportTask)
      (hcounter : task.ctx.nextMsgTag = s.task.ctx.nextMsgTag + 1)
      (hpending : task.pendingCmd = s.task.pendingCmd) :
      Transition s e { s with task, stage := .queued, calls := s.calls ++ [(q, packet)] }
  | refuse {q : Request} (he : e = .call q) (hstage : s.stage = .idle) {packet : Bytes}
      {client : Client} {payload : Bytes} (htag : client.tag = s.task.ctx.nextMsgTag)
      (hpacket : packet = SimpleNetwork.packet client q.destEid payload) (task : TransportTask)
      (hcounter : task.ctx.nextMsgTag = s.task.ctx.nextMsgTag + 1)
      (hpending : task.pendingCmd = s.task.pendingCmd) :
      Transition s e { s with
        task
        stage := .idle
        calls := s.calls ++ [(q, packet)]
        results := s.results ++ [(none, .unsent)] }
  | register (hdatagram : e.datagram s = none) (hstage : s.stage = .queued) {q : Request}
      {packet : Bytes} (hcall : s.calls[s.results.length]? = some (q, packet)) {tag : MsgFlowTag}
      (htag : createTag packet = some tag) (sent : List Bytes) :
      Transition s e { s with
        task := { s.task with pendingCmd := s.task.pendingCmd ++ [(tag, s.results.length)] }
        stage := .waiting
        sent }
  | answer (hdatagram : e.datagram s = none) {k : ℕ} {buf : Bytes} (hreply : s.IsReply k buf) :
      Transition s e { s with replies := s.replies ++ [(k, buf)] }
  | complete {reply : Option ℕ} {buf : Bytes} (hdatagram : e.datagram s = some (reply, buf))
      (hfits : s.Fits buf) (hstage : s.stage = .waiting) :
      Transition s e { s with
        task := { s.task with pendingCmd := [] }
        stage := .idle
        results := s.results ++ [(reply, .response (buf.drop 4))] }
  | pass {reply : Option ℕ} {buf : Bytes} (hdatagram : e.datagram s = some (reply, buf))
      (hfits : ¬ s.Fits buf) (task : TransportTask)
      (hcounter : task.ctx.nextMsgTag = s.task.ctx.nextMsgTag)
      (hpending : task.pendingCmd = s.task.pendingCmd) (sent : List Bytes) :
      Transition s e { s with task, sent }
  | stop (hfits : ∀ reply buf, e.datagram s = some (reply, buf) → ¬ s.Fits buf)
      (task : TransportTask) (hcounter : task.ctx.nextMsgTag = s.task.ctx.nextMsgTag)
      (hpending : task.pendingCmd = []) :
      Transition s e { s with
        task
        running := false
        stage := .idle
        results := if s.stage = .idle then s.results else s.results ++ [(none, .abandoned)] }

/-- The packet of a request goes to its endpoint with the present tag, and the counter moves on. -/
theorem exists_send_eq_packet (q : Request) (ctx : MctpEndpointContext) :
    ∃ payload, (q.send ctx).1 =
        SimpleNetwork.packet ⟨ctx.assignedEid, 0, ctx.nextMsgTag⟩ q.destEid payload ∧
      (q.send ctx).2.nextMsgTag = ctx.nextMsgTag + 1 := by
  cases q with
  | getEid => exact ⟨_, rfl, rfl⟩
  | setEid => exact ⟨_, rfl, rfl⟩
  | allocateEids => exact ⟨_, rfl, rfl⟩

theorem stop_eq (s : Session) :
    s.stop = { s with
      task := { s.task with pendingCmd := [] }
      running := false
      stage := .idle
      results := if s.stage = .idle then s.results else s.results ++ [(none, .abandoned)] } := by
  by_cases hstage : s.stage = .idle
  · rw [stop, if_pos hstage, if_pos hstage, ← hstage]
  · rw [stop, if_neg hstage, if_neg hstage]
    rfl

section Transitions

variable {cfg : TransportConfig} {t₀ : UInt8} {s s' : Session} {e : Event}

/-- What a datagram does depends on whether it fits the request that waits. -/
theorem transition_receive (hs : s.WellFormed t₀) {reply : Option ℕ} {buf : Bytes}
    (hdatagram : e.datagram s = some (reply, buf)) (sendResult : Except IoError ℕ) :
    s.Transition e (s.receive cfg reply buf sendResult) := by
  by_cases hfits : s.Fits buf
  · obtain ⟨hframe, hpending⟩ := hfits
    obtain ⟨flow, hflow⟩ := Option.ne_none_iff_exists'.mp hpending
    have hstage : s.stage = .waiting := by
      by_contra hstage
      exact hpending (TransportTask.firstPending_eq_none (hs.pendingCmd_eq_nil hstage) _)
    obtain ⟨recvTag, -, hfind, hreceive⟩ :=
      s.task.receiveMsg_of_some cfg s.isOpen sendResult hframe hflow
    obtain ⟨q, packet, tag, -, -, hlist⟩ := hs.pendingCmd_eq hstage
    rw [hlist] at hfind
    have hmatch := List.find?_some hfind
    obtain rfl := List.mem_singleton.mp (List.mem_of_find?_eq_some hfind)
    have hopen : s.isOpen s.results.length = true := decide_eq_true ⟨hstage, rfl⟩
    rw [if_pos hopen, hlist, List.eraseP_cons_of_pos hmatch] at hreceive
    rw [receive, hreceive]
    exact .complete hdatagram ⟨hframe, hpending⟩ hstage
  · have hnone : ¬ IsFrame buf ∨ s.task.firstPending (buf.drop 4) = none := by
      rwa [Fits, not_and_or, not_not] at hfits
    obtain ⟨hne, hlist, htag⟩ := s.task.receiveMsg_of_unmatched cfg s.isOpen sendResult hnone
    rw [receive]
    rcases hres : s.task.receiveMsg cfg s.isOpen buf sendResult with ⟨result, task⟩
    rw [hres] at hne hlist htag
    cases result with
    | skipped => exact .pass hdatagram hfits task htag hlist s.sent
    | completed channel bytes => exact absurd rfl (hne channel bytes)
    | sent frame => exact .pass hdatagram hfits task htag hlist (s.sent ++ [frame])
    | refused e => exact .pass hdatagram hfits task htag hlist s.sent
    | panicked message =>
      have hstop := Transition.stop (e := e) (s := s)
        (fun reply' buf' hdatagram' => by
          obtain ⟨rfl, rfl⟩ := Prod.mk.inj (Option.some.inj (hdatagram'.symm.trans hdatagram))
          exact hfits)
        { task with pendingCmd := [] } htag rfl
      rw [handle, stop_eq]
      exact hstop

/-- Every step is one of the transitions. -/
theorem transition_of_step (hs : s.WellFormed t₀) (h : step cfg s e = some s') :
    s.Transition e s' := by
  cases e with
  | call q =>
    rw [step] at h
    split_ifs at h with hstage
    obtain rfl := Option.some.inj h
    obtain ⟨payload, hpacket, hcounter⟩ := exists_send_eq_packet q s.task.ctx
    simp only [call]
    split_ifs
    · exact .queue rfl hstage rfl hpacket ⟨_, s.task.pendingCmd⟩ hcounter rfl
    · exact .refuse rfl hstage rfl hpacket ⟨_, s.task.pendingCmd⟩ hcounter rfl
  | transmit sendResult =>
    rw [step] at h
    split_ifs at h with hguard
    obtain ⟨⟨q, packet⟩, hcall, rfl⟩ := Option.map_eq_some_iff.mp h
    obtain ⟨tag, htag⟩ := exists_createTag packet
    have hsend : s.task.sendCmd cfg packet (some s.results.length) sendResult =
        (TransportTask.transmitFrame cfg packet sendResult, { s.task with
          pendingCmd := s.task.pendingCmd ++ [(tag, s.results.length)] }) := by
      rw [TransportTask.sendCmd]
      simp only [htag]
    rcases TransportTask.transmitFrame_cases cfg packet sendResult with
      ⟨frame, hresult⟩ | ⟨message, hresult⟩
    · rw [transmit, hsend, hresult]
      exact .register rfl hguard.2 hcall htag (s.sent ++ [frame])
    · rw [transmit, hsend, hresult]
      have hstop := Transition.stop (e := .transmit sendResult) (s := s)
        (fun _ _ hdatagram => by cases hdatagram) { s.task with pendingCmd := [] } rfl rfl
      rw [hguard.2] at hstop
      exact hstop
  | answer k dest count src body =>
    rw [step] at h
    split_ifs at h
    cases hcall : s.calls[k]? with
    | none =>
      rw [hcall] at h
      cases h
    | some call =>
      obtain ⟨q, packet⟩ := call
      simp only [hcall] at h
      cases hrequest : ControlPayload.tryFrom packet with
      | error e =>
        rw [hrequest] at h
        cases h
      | ok request =>
        rw [hrequest] at h
        obtain rfl := Option.some.inj h
        exact .answer rfl ⟨q, packet, request, dest, count, src, body, hcall, hrequest, rfl⟩
  | receive j sendResult =>
    rw [step] at h
    split_ifs at h
    obtain ⟨⟨k, buf⟩, hreply, rfl⟩ := Option.map_eq_some_iff.mp h
    refine transition_receive hs ?_ sendResult
    rw [Event.datagram, hreply]
    rfl
  | receiveOther buf sendResult =>
    rw [step] at h
    split_ifs at h
    obtain rfl := Option.some.inj h
    exact transition_receive hs rfl sendResult

end Transitions

/-- The requests so far stay, with their packets. -/
theorem Transition.calls_prefix {s s' : Session} {e : Event} (h : s.Transition e s') :
    s.calls <+: s'.calls := by
  cases h with
  | queue | refuse => exact List.prefix_append _ _
  | register | answer | complete | pass | stop => exact List.prefix_rfl

/-- The replies that were made stay. -/
theorem Transition.replies_prefix {s s' : Session} {e : Event} (h : s.Transition e s') :
    s.replies <+: s'.replies := by
  cases h with
  | answer => exact List.prefix_append _ _
  | queue | refuse | register | complete | pass | stop => exact List.prefix_rfl

/-! ### The invariant of a run -/

theorem IsReply.mono {s s' : Session} {k : ℕ} {buf : Bytes} (h : s.IsReply k buf)
    (hcalls : s.calls <+: s'.calls) : s'.IsReply k buf := by
  obtain ⟨q, packet, request, dest, count, src, body, hcall, hrest⟩ := h
  have hcall' := KeyedFifo.getElem?_of_prefix hcalls hcall
  exact ⟨q, packet, request, dest, count, src, body, hcall', hrest⟩

theorem WellFormed.init (ctx : MctpEndpointContext) :
    (init ctx).WellFormed ctx.nextMsgTag where
  length_calls := rfl
  nextMsgTag := (UInt8.add_zero _).symm
  call _ _ _ h := by cases h
  reply _ _ _ h := by cases h
  source _ _ _ h := by cases h
  pendingCmd_eq_nil _ := rfl
  pendingCmd_eq h := by cases h

section Step

variable {t₀ : UInt8} {s s' : Session}

/-- The packet of a new request has the tag of its place. -/
theorem WellFormed.call_concat (hs : s.WellFormed t₀) {q : Request} {packet payload : Bytes}
    {client : Client} (htag : client.tag = s.task.ctx.nextMsgTag)
    (hpacket : packet = SimpleNetwork.packet client q.destEid payload) (i : ℕ) (q' : Request)
    (packet' : Bytes) (hcall : (s.calls ++ [(q, packet)])[i]? = some (q', packet')) :
    ∃ client payload, client.tag = t₀ + .ofNat i ∧
      packet' = SimpleNetwork.packet client q'.destEid payload := by
  rcases KeyedFifo.getElem?_concat_eq_some.mp hcall with hcall | ⟨rfl, hlast⟩
  · exact hs.call i q' packet' hcall
  · obtain ⟨rfl, rfl⟩ := Prod.mk.inj hlast
    exact ⟨client, payload, htag.trans hs.nextMsgTag, hpacket⟩

/-- A new result comes from one of the replies. -/
theorem WellFormed.source_concat (hs : s.WellFormed t₀) {r : Option ℕ × Delivery}
    (hr : ∀ j, r.1 = some j → j < s.replies.length) (i j : ℕ) (d : Delivery)
    (h : (s.results ++ [r])[i]? = some (some j, d)) : j < s.replies.length := by
  rcases KeyedFifo.getElem?_concat_eq_some.mp h with h | ⟨rfl, rfl⟩
  · exact hs.source i j d h
  · exact hr j rfl

/-- A call puts its packet into the channel. -/
theorem WellFormed.queue (hs : s.WellFormed t₀) (hstage : s.stage = .idle) {q : Request}
    {packet payload : Bytes} {client : Client} (htag : client.tag = s.task.ctx.nextMsgTag)
    (hpacket : packet = SimpleNetwork.packet client q.destEid payload) {task : TransportTask}
    (hcounter : task.ctx.nextMsgTag = s.task.ctx.nextMsgTag + 1)
    (hpending : task.pendingCmd = s.task.pendingCmd) :
    ({ s with task, stage := .queued, calls := s.calls ++ [(q, packet)] } : Session).WellFormed
      t₀ where
  length_calls := by
    have hlength := hs.length_calls
    rw [if_pos hstage] at hlength
    rw [List.length_append, hlength]
    rfl
  nextMsgTag := by
    rw [hcounter, hs.nextMsgTag, List.length_append, List.length_singleton, UInt8.ofNat_add,
      UInt8.add_assoc]
    rfl
  call := hs.call_concat htag hpacket
  reply j k buf hreply := (hs.reply j k buf hreply).mono (List.prefix_append _ _)
  source := hs.source
  pendingCmd_eq_nil _ := by
    rw [hpending]
    exact hs.pendingCmd_eq_nil (by rw [hstage]; exact Stage.noConfusion)
  pendingCmd_eq h := Stage.noConfusion h

/-- The last request returns, with nothing left to wait for. -/
theorem WellFormed.finish (hs : s.WellFormed t₀) (hstage : s.stage ≠ .idle)
    (task : TransportTask) (hcounter : task.ctx.nextMsgTag = s.task.ctx.nextMsgTag)
    (hpending : task.pendingCmd = []) (running : Bool) {result : Option ℕ × Delivery}
    (hresult : ∀ j, result.1 = some j → j < s.replies.length) :
    ({ s with task, running, stage := .idle, results := s.results ++ [result] } :
      Session).WellFormed t₀ where
  length_calls := by
    have hlength := hs.length_calls
    rw [if_neg hstage] at hlength
    rw [hlength, List.length_append]
    rfl
  nextMsgTag := hcounter.trans hs.nextMsgTag
  call := hs.call
  reply := hs.reply
  source := hs.source_concat hresult
  pendingCmd_eq_nil _ := hpending
  pendingCmd_eq h := Stage.noConfusion h

/-- The state of the endpoint changes apart from its tag counter. -/
theorem WellFormed.of_task (hs : s.WellFormed t₀) {task : TransportTask}
    (hcounter : task.ctx.nextMsgTag = s.task.ctx.nextMsgTag)
    (hpending : task.pendingCmd = s.task.pendingCmd) (running : Bool) (sent : List Bytes) :
    ({ s with task, running, sent } : Session).WellFormed t₀ where
  length_calls := hs.length_calls
  nextMsgTag := hcounter.trans hs.nextMsgTag
  call := hs.call
  reply := hs.reply
  source := hs.source
  pendingCmd_eq_nil h := hpending.trans (hs.pendingCmd_eq_nil h)
  pendingCmd_eq h := by
    rw [hpending]
    exact hs.pendingCmd_eq h

/-- Every transition keeps the invariant. -/
theorem WellFormed.transition (hs : s.WellFormed t₀) {e : Event} (h : s.Transition e s') :
    s'.WellFormed t₀ := by
  have hnone (d : Delivery) (j : ℕ) (hj : ((none, d) : Option ℕ × Delivery).1 = some j) :
      j < s.replies.length := absurd hj.symm (Option.some_ne_none j)
  cases h with
  | queue he hstage htag hpacket task hcounter hpending =>
    exact hs.queue hstage htag hpacket hcounter hpending
  | refuse he hstage htag hpacket task hcounter hpending =>
    have hnil := hs.pendingCmd_eq_nil (by rw [hstage]; exact Stage.noConfusion)
    exact (hs.queue hstage htag hpacket hcounter hpending).finish
      (fun h => Stage.noConfusion h) task rfl (hpending.trans hnil) s.running (hnone _)
  | @register hdatagram hstage q packet hcall tag htag sent =>
    have hnil := hs.pendingCmd_eq_nil (by rw [hstage]; exact Stage.noConfusion)
    exact {
      length_calls := by
        have hlength := hs.length_calls
        rwa [hstage] at hlength
      nextMsgTag := hs.nextMsgTag
      call := hs.call
      reply := hs.reply
      source := hs.source
      pendingCmd_eq_nil := fun h => absurd rfl h
      pendingCmd_eq := fun _ => ⟨q, packet, tag, hcall, htag, by rw [hnil]; rfl⟩ }
  | @answer hdatagram k buf hreply =>
    exact {
      length_calls := hs.length_calls
      nextMsgTag := hs.nextMsgTag
      call := hs.call
      reply := fun j k' buf' hget => by
        rcases KeyedFifo.getElem?_concat_eq_some.mp hget with hget | ⟨-, hlast⟩
        · exact hs.reply j k' buf' hget
        · obtain ⟨rfl, rfl⟩ := Prod.mk.inj hlast
          exact hreply
      source := fun i j d hget => by
        rw [List.length_append]
        exact Nat.lt_add_right _ (hs.source i j d hget)
      pendingCmd_eq_nil := hs.pendingCmd_eq_nil
      pendingCmd_eq := hs.pendingCmd_eq }
  | complete hdatagram hfits hstage =>
    refine hs.finish (by rw [hstage]; exact Stage.noConfusion) ⟨s.task.ctx, []⟩ rfl rfl s.running
      fun j hj => ?_
    obtain rfl := hj
    obtain ⟨k, hreply⟩ := exists_reply_of_datagram hdatagram
    exact (List.getElem?_eq_some_iff.mp hreply).1
  | pass hdatagram hfits task hcounter hpending sent =>
    exact hs.of_task hcounter hpending s.running sent
  | stop hfits task hcounter hpending =>
    by_cases hidle : s.stage = .idle
    · have hnil := hs.pendingCmd_eq_nil (by rw [hidle]; exact Stage.noConfusion)
      have hkeep := hs.of_task hcounter (hpending.trans hnil.symm) false s.sent
      rw [hidle] at hkeep
      simp only [if_pos hidle]
      exact hkeep
    · simp only [if_neg hidle]
      exact hs.finish hidle task hcounter hpending false (hnone _)

/-- Every run keeps the invariant, whatever arrives. -/
theorem wellFormed_run {cfg : TransportConfig} {C : Session → Event → Prop}
    {ctx : MctpEndpointContext} {es : List Event}
    (h : StepSystem.Run (step cfg) C (init ctx) es s) : s.WellFormed ctx.nextMsgTag :=
  h.invariant (.init ctx) fun _ _ _ hs _ hstep => hs.transition (transition_of_step hs hstep)

end Step

end Session

end BusOwner

end MctpEmu
