import Mathlib.Data.List.Forall2
import MctpEmu.BusOwner.LoopRefinement

/-!
# What the program of a bus owner delivers

The channel of the transport task keeps the order of the datagrams and of the requests, and the task
gives each command to one side: a datagram to the request that waits for it or to the responder, and
a request to the socket. What comes out on the three sides is accounted for here.

## Main definitions

* `BusOwner.Program.arrivals`: the datagrams of a run, as the receive task reads them.
* `BusOwner.Answers`: a response that a request is completed with.
* `BusOwner.FrameOf`: the frame that the transport task makes for a command.

## Main results

* `BusOwner.Program.datagrams_in_order`: no datagram is lost, duplicated or overtaken.
* `BusOwner.Program.requests_in_order`: nor is a request.
* `BusOwner.Program.responses_in_order`: the responses of the loop.
* `BusOwner.Program.frames_in_order`: the frames that are sent.
-/

namespace MctpEmu

namespace BusOwner

/-- The response has the tag of the request, the other tag owner, and the endpoint that was asked as
its source. -/
def Answers (request response : Bytes) : Prop :=
  ∃ tag recvTag, createTag request = some tag ∧ createTag response = some recvTag ∧
    recvTag.msgTag = tag.msgTag ∧ recvTag.tagOwner ≠ tag.tagOwner ∧ recvTag.srcEid = tag.destEid

/-- The frame of a request, or of the reply to a packet. -/
inductive FrameOf (cfg : TransportConfig) : PhysicalTransportCommands → Bytes → Prop
  | request {packet frame : Bytes} (resp : Option ℕ)
      (hframe : sendFrame cfg.overflowChecks cfg.pec cfg.destAddr7bit cfg.srcAddr7bit packet =
        some frame) : FrameOf cfg (.sendMsg packet resp) frame
  | reply {buf reply frame : Bytes} (ctx : MctpEndpointContext)
      (hreply : (ctx.handleRequest (buf.drop 4)).1 = .ok reply)
      (hframe : sendFrame cfg.overflowChecks cfg.pec cfg.destAddr7bit cfg.srcAddr7bit reply =
        some frame) : FrameOf cfg (.receiveMsg buf) frame

/-- The packets of the requests of a history. -/
def requests (history : List Message) : List Bytes :=
  history.filterMap fun m => match m with
    | .request bytes => some bytes
    | .response _ => none

namespace Program

section Runs

variable {cfg : TransportConfig} {pingEid : UInt8} {p p' : Program} {e : Event}

/-! ### Order of the commands -/

/-- The commands of the channel, from the first that was put there. -/
def Ordered (p : Program) : Prop :=
  BoundedChannel.InOrder p.accepted p.handled (p.transport.map Transport.channel)

theorem Ordered.takes (h : p.Ordered) {t : Transport} {cmd : PhysicalTransportCommands}
    {channel : BoundedChannel PhysicalTransportCommands 32} (htakes : p.Takes t cmd channel) :
    BoundedChannel.InOrder p.accepted (p.handled ++ [cmd]) (some channel) := by
  have horder := h
  rw [Ordered, htakes.transport] at horder
  exact horder.recv (BoundedChannel.recv_eq_some htakes.recv).1

/-- Every transition keeps the order. -/
theorem Ordered.transition (h : p.Ordered) (hstep : Transition cfg pingEid p e p') :
    p'.Ordered := by
  cases hstep with
  | turn | wake | deliver | ignore | overrun | recvError => exact h
  | enqueue _ htransport hqueue | accept _ _ htransport _ hqueue =>
    rw [Ordered, htransport] at h
    exact h.send hqueue
  | block _ htransport hqueue =>
    rw [Ordered, htransport] at h
    exact h.keep hqueue
  | skip htakes | complete htakes | refuse htakes | reply htakes | register htakes =>
    exact h.takes htakes
  | crash htakes => exact (h.takes htakes).close
  | transmit htransport =>
    rw [Ordered, htransport] at h
    exact h
  | abort => exact h.close

theorem ordered_run {C : Program → Event → Prop} {ctx : MctpEndpointContext} {es : List Event}
    (h : StepSystem.Run (step cfg pingEid) C (init ctx) es p) : p.Ordered := by
  have hinv := h.invariant (I := fun p => p.WellFormed ∧ p.Ordered)
    ⟨wellFormed_init ctx, BoundedChannel.InOrder.empty⟩ fun _ _ _ hp _ hstep =>
      ⟨hp.1.step hstep, hp.2.transition (transition_of_step hp.1 hstep)⟩
  exact hinv.2

/-- What the receive task reads of an event. -/
def Event.arrival : Event → Option Bytes
  | .arrive buf => if buf = [] then none else some (buf.take 4096)
  | _ => none

/-- The datagrams of a run: those that are not empty, as far as the buffer holds them. -/
def arrivals (es : List Event) : List Bytes := es.filterMap Event.arrival

/-- The datagrams among the commands. -/
def datagrams (commands : List PhysicalTransportCommands) : List Bytes :=
  commands.filterMap PhysicalTransportCommands.datagram

@[simp] theorem datagrams_append (l l' : List PhysicalTransportCommands) :
    datagrams (l ++ l') = datagrams l ++ datagrams l' :=
  List.filterMap_append

theorem datagrams_sendMsg (buf : Bytes) (resp : Option ℕ) :
    datagrams [.sendMsg buf resp] = [] := rfl

theorem datagrams_receiveMsg (buf : Bytes) : datagrams [.receiveMsg buf] = [buf] := rfl

/-- A step accepts the datagram that it brings, unless the receive task ends with it. -/
theorem datagrams_accepted_of_transition (h : Transition cfg pingEid p e p') :
    (p'.receiving = true → p.receiving = true) ∧ datagrams p'.accepted =
      datagrams p.accepted ++ if p'.receiving then e.arrival.toList else [] := by
  have hkeep {l : List Bytes} {b : Bool} (he : e.arrival = none) :
      l = l ++ if b then e.arrival.toList else [] := by
    rw [he, Option.toList_none, ite_self, List.append_nil]
  cases h with
  | turn | wake | block | skip | complete | refuse | reply | crash | register | transmit | abort =>
    exact ⟨id, hkeep rfl⟩
  | deliver hdelivers =>
    refine ⟨id, hkeep ?_⟩
    cases hdelivers <;> rfl
  | enqueue =>
    refine ⟨id, ?_⟩
    rw [datagrams_append, datagrams_sendMsg, List.append_nil]
    exact hkeep rfl
  | @accept buf _ _ hreceiving hbuf =>
    refine ⟨id, ?_⟩
    rw [datagrams_append, datagrams_receiveMsg]
    simp only [hreceiving, if_true, Event.arrival, if_neg hbuf, Option.toList_some]
  | ignore => exact ⟨id, hkeep rfl⟩
  | overrun => exact ⟨fun h => (by cases h), (List.append_nil _).symm⟩
  | recvError => exact ⟨fun h => (by cases h), (List.append_nil _).symm⟩

/-- The accepted datagrams are the first that have arrived, and all of them while the receive task
is there. -/
theorem datagrams_accepted_run {C : Program → Event → Prop} {ctx : MctpEndpointContext}
    {es : List Event} (h : StepSystem.Run (step cfg pingEid) C (init ctx) es p) :
    datagrams p.accepted <+: arrivals es ∧
      (p.receiving = true → datagrams p.accepted = arrivals es) := by
  induction h with
  | nil => exact ⟨List.prefix_rfl, fun _ => rfl⟩
  | @snoc es p p' e hrun hstep _ ih =>
    have harrivals : arrivals (es ++ [e]) = arrivals es ++ e.arrival.toList := by
      rw [arrivals, List.filterMap_append]
      cases harrival : e.arrival <;> simp [arrivals, harrival]
    obtain ⟨hfirst, heq⟩ := ih
    obtain ⟨hreceiving, haccepted⟩ :=
      datagrams_accepted_of_transition (transition_of_step (wellFormed_run hrun) hstep)
    rw [harrivals]
    cases hafter : p'.receiving with
    | true =>
      have hall : datagrams p'.accepted = arrivals es ++ e.arrival.toList := by
        rw [haccepted, hafter, heq (hreceiving hafter)]
        rfl
      exact ⟨hall ▸ List.prefix_rfl, fun _ => hall⟩
    | false =>
      refine ⟨?_, fun h => by cases h⟩
      rw [haccepted, hafter]
      simp only [Bool.false_eq_true, if_false, List.append_nil]
      exact hfirst.trans (List.prefix_append _ _)

/-! ### Requests -/

/-- The requests among the commands, each with its channel. -/
def requestCommands (commands : List PhysicalTransportCommands) : List (Bytes × Option ℕ) :=
  commands.filterMap PhysicalTransportCommands.request

/-- Packets with the channels of their requests. -/
def numbered (packets : List Bytes) : List (Bytes × Option ℕ) :=
  packets.zipIdx.map fun x => (x.1, some x.2)

theorem numbered_concat (packets : List Bytes) (packet : Bytes) :
    numbered (packets ++ [packet]) = numbered packets ++ [(packet, some packets.length)] := by
  rw [numbered, List.zipIdx_append, List.map_append]
  simp [numbered]

/-- The packet of a sender that has not handed it over. -/
def unsent : Sender → Option Bytes
  | .handing packet | .blocked packet => some packet
  | .idle | .awaiting _ _ => none

/-- The requests that were handed over are the first of the loop. While the loop goes on, the only
other one is the packet that its sender has, and all but the one it waits for have returned. -/
structure Handed (p : Program) : Prop where
  is_prefix : requestCommands p.accepted <+: numbered (requests p.loop.history)
  eq_append : p.loop.phase.isOver = false → numbered (requests p.loop.history) =
    requestCommands p.accepted ++ ((unsent p.sender).map fun b => (b, some p.returned)).toList
  length_eq : p.loop.phase.isOver = false →
    (requests p.loop.history).length = p.returned + p.sender.packet.isSome.toNat

theorem handed_init (ctx : MctpEndpointContext) : (init ctx).Handed where
  is_prefix := List.prefix_rfl
  eq_append _ := rfl
  length_eq _ := rfl

/-- The requests of a loop that hears something. -/
theorem requests_append_heard (history : List Message) (loopEvent : BusOwner.Event) :
    requests (history ++ loopEvent.heard) = requests history := by
  rw [requests, List.filterMap_append]
  refine (congrArg _ ?_).trans (List.append_nil _)
  cases loopEvent with
  | deliver d => cases d <;> rfl
  | turn | wake | handleRequest => rfl

/-- The loop goes on after everything has been handed over and has returned. -/
theorem Handed.goOn {loop : State} {loopEvent : BusOwner.Event} {returned : ℕ}
    (he : ∀ bytes, loopEvent ≠ .handleRequest bytes)
    (hloop : BusOwner.step cfg.overflowChecks pingEid p.loop loopEvent = some loop)
    (hall : numbered (requests p.loop.history) = requestCommands p.accepted)
    (hlength : (requests p.loop.history).length = returned) :
    ({ p.goOn loop with returned } : Program).Handed := by
  rcases sender_goOn p he hloop with ⟨-, hsender, hhistory⟩ | ⟨-, q, ctx, hsender, hhistory⟩
  · have hrequests : requests loop.history = requests p.loop.history := by
      rw [hhistory, requests_append_heard]
    exact {
      is_prefix := by
        change requestCommands p.accepted <+: numbered (requests loop.history)
        rw [hrequests, hall]
      eq_append := fun _ => by
        change numbered (requests loop.history) = requestCommands p.accepted ++ _
        rw [hrequests, hall]
        simp only [hsender, unsent, Option.map_none, Option.toList_none, List.append_nil]
      length_eq := fun _ => by
        change (requests loop.history).length = _
        rw [hrequests, hlength]
        simp only [hsender, Sender.packet, Option.isSome_none, Bool.toNat_false, Nat.add_zero] }
  · have hrequests : requests loop.history = requests p.loop.history ++ [(q.send ctx).1] := by
      rw [hhistory, requests, List.filterMap_append]
      exact congrArg (· ++ _) (requests_append_heard p.loop.history loopEvent)
    have hnumbered : numbered (requests loop.history) =
        requestCommands p.accepted ++ [((q.send ctx).1, some returned)] := by
      rw [hrequests, numbered_concat, hall, hlength]
    exact {
      is_prefix := by
        change requestCommands p.accepted <+: numbered (requests loop.history)
        rw [hnumbered]
        exact List.prefix_append _ _
      eq_append := fun _ => by
        change numbered (requests loop.history) = requestCommands p.accepted ++ _
        rw [hnumbered]
        simp only [hsender, unsent, Option.map_some, Option.toList_some]
      length_eq := fun _ => by
        change (requests loop.history).length = _
        rw [hrequests, List.length_append, hlength]
        simp only [hsender, Sender.packet, Option.isSome_some, Bool.toNat_true,
          List.length_singleton] }

@[simp] theorem requestCommands_append (l l' : List PhysicalTransportCommands) :
    requestCommands (l ++ l') = requestCommands l ++ requestCommands l' :=
  List.filterMap_append

/-- A step that changes none of the requests. -/
theorem Handed.congr (h : p.Handed) (hrequests : requests p'.loop.history = requests p.loop.history)
    (hphase : p'.loop.phase = p.loop.phase) (hreturned : p'.returned = p.returned)
    (haccepted : requestCommands p'.accepted = requestCommands p.accepted)
    (hunsent : unsent p'.sender = unsent p.sender) (hpacket : p'.sender.packet = p.sender.packet) :
    p'.Handed where
  is_prefix := by
    rw [hrequests, haccepted]
    exact h.is_prefix
  eq_append hover := by
    rw [hrequests, haccepted, hunsent, hreturned]
    exact h.eq_append (hphase ▸ hover)
  length_eq hover := by
    rw [hrequests, hreturned, hpacket]
    exact h.length_eq (hphase ▸ hover)

/-- A loop that rests has handed everything over. -/
theorem Handed.rest (h : p.Handed) (hp : p.WellFormed) (hawaits : p.loop.phase.awaits = false)
    (hover : p.loop.phase.isOver = false) :
    numbered (requests p.loop.history) = requestCommands p.accepted ∧
      (requests p.loop.history).length = p.returned := by
  have hidle : p.sender = .idle := by
    have hnone := hp.packet_isSome.trans hawaits
    cases hsender : p.sender with
    | idle => rfl
    | handing | blocked | awaiting => rw [hsender] at hnone; cases hnone
  have heq := h.eq_append hover
  have hlength := h.length_eq hover
  rw [hidle] at heq hlength
  exact ⟨heq.trans (List.append_nil _), hlength⟩

/-- A request that is given up stays in the history. -/
theorem Handed.giveUp (h : p.Handed) {loop : State} {d : Delivery}
    (hd : ∀ bytes, d ≠ .response bytes)
    (hloop : BusOwner.step cfg.overflowChecks pingEid p.loop (.deliver d) = some loop)
    (returned : ℕ) : ({ p.goOn loop with returned } : Program).Handed := by
  have hover := isOver_of_deliver hd hloop
  refine ⟨?_, fun hrest => ?_, fun hrest => ?_⟩
  · change requestCommands p.accepted <+: numbered (requests loop.history)
    rw [history_of_giveUp hd hloop]
    exact h.is_prefix
  · cases hover.symm.trans hrest
  · cases hover.symm.trans hrest

/-- A loop with a packet is not over. -/
theorem WellFormed.isOver_eq_false (hp : p.WellFormed) {packet : Bytes}
    (h : p.sender.packet = some packet) : p.loop.phase.isOver = false := by
  have hawaits := hp.packet_isSome
  rw [h] at hawaits
  exact Phase.isOver_of_awaits hawaits.symm

/-- Every transition keeps the order of the requests. -/
theorem Handed.transition (h : p.Handed) (hp : p.WellFormed)
    (hstep : Transition cfg pingEid p e p') : p'.Handed := by
  cases hstep with
  | turn hloop =>
    have hphase := (goesOn_of_turn hloop).1
    obtain ⟨hall, hlength⟩ := h.rest hp (by rw [hphase]; rfl) (by rw [hphase]; rfl)
    exact Handed.goOn (fun _ => BusOwner.Event.noConfusion) hloop hall hlength
  | wake hloop =>
    have hphase := (goesOn_of_wake hloop).1
    obtain ⟨hall, hlength⟩ := h.rest hp (by rw [hphase]; rfl) (by rw [hphase]; rfl)
    exact Handed.goOn (fun _ => BusOwner.Event.noConfusion) hloop hall hlength
  | deliver hdelivers hloop =>
    cases hdelivers with
    | unsent => exact h.giveUp (fun _ => Delivery.noConfusion) hloop _
    | abandoned => exact h.giveUp (fun _ => Delivery.noConfusion) hloop _
    | @response packet bytes hsender =>
      have hpacket : p.sender.packet = some packet := by rw [hsender]; rfl
      have hover := hp.isOver_eq_false hpacket
      have heq := h.eq_append hover
      have hlength := h.length_eq hover
      rw [hsender] at heq hlength
      exact Handed.goOn (fun _ => BusOwner.Event.noConfusion) hloop
        (heq.trans (List.append_nil _)) hlength
  | @enqueue packet t channel hsender =>
    have hpacket : p.sender.packet = some packet ∧ unsent p.sender = some packet := by
      rcases hsender with hsender | hsender <;> rw [hsender] <;> exact ⟨rfl, rfl⟩
    have hover := hp.isOver_eq_false hpacket.1
    have heq := h.eq_append hover
    have hlength := h.length_eq hover
    rw [hpacket.2, Option.map_some, Option.toList_some] at heq
    rw [hpacket.1] at hlength
    refine ⟨?_, fun _ => ?_, fun _ => hlength⟩
    · rw [heq, requestCommands_append]
      exact List.prefix_rfl
    · rw [heq, requestCommands_append]
      exact (List.append_nil _).symm
  | block hsender => exact h.congr rfl rfl rfl rfl (by rw [hsender]; rfl) (by rw [hsender]; rfl)
  | accept =>
    refine h.congr rfl rfl rfl ?_ rfl rfl
    rw [requestCommands_append]
    exact List.append_nil _
  | complete _ _ hsender =>
    exact h.congr rfl rfl rfl rfl (by rw [hsender]; rfl) (by rw [hsender]; rfl)
  | ignore | overrun | recvError | skip | refuse | reply | crash | register | transmit | abort =>
    exact h.congr rfl rfl rfl rfl rfl rfl

theorem handed_run {C : Program → Event → Prop} {ctx : MctpEndpointContext} {es : List Event}
    (h : StepSystem.Run (step cfg pingEid) C (init ctx) es p) : p.Handed := by
  have hinv := h.invariant (I := fun p => p.WellFormed ∧ p.Handed)
    ⟨wellFormed_init ctx, handed_init ctx⟩ fun _ _ _ hp _ hstep =>
      ⟨hp.1.step hstep, hp.2.transition hp.1 (transition_of_step hp.1 hstep)⟩
  exact hinv.2

/-! ### Responses -/

/-- The response that a sender has not returned with yet. -/
def response : Sender → Option Bytes
  | .awaiting _ reply => reply
  | .idle | .handing _ | .blocked _ => none

/-- The exchanges of the loop, each completed with a datagram of its own, and the request that is
not answered: the packet of the sender, or what was given up at the end of the loop. -/
structure Answered (p : Program) (exchanges : List (Bytes × Bytes)) (unanswered : Option Bytes) :
    Prop where
  converses : Converses p.loop.history exchanges unanswered
  answers : ∀ x ∈ exchanges, Answers x.1 x.2
  eq_packet : p.loop.phase.isOver = false → unanswered = p.sender.packet
  reply : ∀ packet bytes, p.sender = .awaiting packet (some bytes) → Answers packet bytes
  sublist : List.Sublist (exchanges.map Prod.snd ++ (response p.sender).toList)
    ((datagrams p.handled).map (List.drop 4))

namespace Answered

variable {exchanges : List (Bytes × Bytes)} {unanswered : Option Bytes}

theorem init (ctx : MctpEndpointContext) : (init ctx).Answered [] none where
  converses := .nil
  answers _ hx := by cases hx
  eq_packet _ := rfl
  reply _ _ h := by cases h
  sublist := List.Sublist.refl _

/-- A loop whose requests are all answered rests or asks. -/
theorem goOn {loop : State} {loopEvent : BusOwner.Event}
    (he : ∀ bytes, loopEvent ≠ .handleRequest bytes)
    (hloop : BusOwner.step cfg.overflowChecks pingEid p.loop loopEvent = some loop)
    (hconverses : Converses (p.loop.history ++ loopEvent.heard) exchanges none)
    (hanswers : ∀ x ∈ exchanges, Answers x.1 x.2)
    (hsublist : List.Sublist (exchanges.map Prod.snd) ((datagrams p.handled).map (List.drop 4)))
    (returned : ℕ) :
    ∃ unanswered, Answered { p.goOn loop with returned } exchanges unanswered := by
  rcases sender_goOn p he hloop with ⟨-, hsender, hhistory⟩ | ⟨-, q, ctx, hsender, hhistory⟩
  · refine ⟨none, hhistory ▸ hconverses, hanswers, fun _ => ?_, fun packet bytes h => ?_, ?_⟩
    · simp only [hsender, Sender.packet]
    · cases hsender.symm.trans h
    · simp only [hsender, response, Option.toList_none, List.append_nil]
      exact hsublist
  · refine ⟨some (q.send ctx).1, hhistory ▸ hconverses.ask _, hanswers, fun _ => ?_,
      fun packet bytes h => ?_, ?_⟩
    · simp only [hsender, Sender.packet]
    · cases hsender.symm.trans h
    · simp only [hsender, response, Option.toList_none, List.append_nil]
      exact hsublist

/-- The request that is not answered is given up at the end of the loop. -/
theorem giveUp (h : p.Answered exchanges unanswered) {loop : State} {d : Delivery}
    (hd : ∀ bytes, d ≠ .response bytes)
    (hloop : BusOwner.step cfg.overflowChecks pingEid p.loop (.deliver d) = some loop)
    (returned : ℕ) : Answered { p.goOn loop with returned } exchanges unanswered := by
  have hover := isOver_of_deliver hd hloop
  have hhistory := history_of_giveUp hd hloop
  have hsender : (p.goOn loop).sender = .idle := by
    rcases sender_goOn p (fun _ => BusOwner.Event.noConfusion) hloop with
      ⟨-, hsender, -⟩ | ⟨hawaits, -⟩
    · exact hsender
    · cases hover.symm.trans (Phase.isOver_of_awaits hawaits)
  refine ⟨hhistory ▸ h.converses, h.answers, fun hrest => ?_, fun packet bytes hreply => ?_, ?_⟩
  · cases hover.symm.trans hrest
  · cases hsender.symm.trans hreply
  · simp only [hsender, response, Option.toList_none, List.append_nil]
    exact (List.sublist_append_left _ _).trans h.sublist

/-- A step that leaves the loop and its sender alone. -/
theorem congr (h : p.Answered exchanges unanswered)
    (hhistory : p'.loop.history = p.loop.history) (hphase : p'.loop.phase = p.loop.phase)
    (hpacket : p'.sender.packet = p.sender.packet)
    (hreply : ∀ packet bytes, p'.sender = .awaiting packet (some bytes) → p'.sender = p.sender)
    (hresponse : response p'.sender = response p.sender) (hhandled : p.handled <+: p'.handled) :
    p'.Answered exchanges unanswered where
  converses := hhistory ▸ h.converses
  answers := h.answers
  eq_packet hover := (h.eq_packet (hphase ▸ hover)).trans hpacket.symm
  reply packet bytes hsender :=
    h.reply packet bytes ((hreply packet bytes hsender).symm.trans hsender)
  sublist := by
    rw [hresponse]
    exact h.sublist.trans ((hhandled.sublist.filterMap _).map _)

/-- Every transition keeps the conversation. -/
theorem transition (h : p.Answered exchanges unanswered) (hp : p.WellFormed)
    (hstep : Transition cfg pingEid p e p') :
    ∃ exchanges unanswered, p'.Answered exchanges unanswered := by
  have hrest (hawaits : p.loop.phase.awaits = false) (hover : p.loop.phase.isOver = false) :
      Converses p.loop.history exchanges none := by
    have hnone := hp.packet_isSome.trans hawaits
    rw [Option.isSome_eq_false_iff, Option.isNone_iff_eq_none] at hnone
    rw [← hnone, ← h.eq_packet hover]
    exact h.converses
  have hsublist := (List.sublist_append_left _ _).trans h.sublist
  cases hstep with
  | turn hloop =>
    have hphase := (goesOn_of_turn hloop).1
    have hconverses := hrest (by rw [hphase]; rfl) (by rw [hphase]; rfl)
    exact ⟨exchanges, goOn (fun _ => BusOwner.Event.noConfusion) hloop
      ((List.append_nil p.loop.history).symm ▸ hconverses) h.answers hsublist p.returned⟩
  | wake hloop =>
    have hphase := (goesOn_of_wake hloop).1
    have hconverses := hrest (by rw [hphase]; rfl) (by rw [hphase]; rfl)
    exact ⟨exchanges, goOn (fun _ => BusOwner.Event.noConfusion) hloop
      ((List.append_nil p.loop.history).symm ▸ hconverses) h.answers hsublist p.returned⟩
  | deliver hdelivers hloop =>
    cases hdelivers with
    | unsent => exact ⟨_, _, h.giveUp (fun _ => Delivery.noConfusion) hloop _⟩
    | abandoned => exact ⟨_, _, h.giveUp (fun _ => Delivery.noConfusion) hloop _⟩
    | @response packet bytes hsender =>
      have hpacket : p.sender.packet = some packet := by rw [hsender]; rfl
      have hover := hp.isOver_eq_false hpacket
      have hunanswered := h.eq_packet hover
      rw [hsender] at hunanswered
      subst hunanswered
      refine ⟨exchanges ++ [(packet, bytes)], goOn (fun _ => BusOwner.Event.noConfusion) hloop
        (h.converses.answer bytes) (fun x hx => ?_) ?_ _⟩
      · rcases List.mem_append.mp hx with hx | hx
        · exact h.answers x hx
        · obtain rfl := List.mem_singleton.mp hx
          exact h.reply packet bytes hsender
      · have hall := h.sublist
        rw [hsender] at hall
        rw [List.map_append]
        exact hall
  | enqueue hsender =>
    refine ⟨_, _, h.congr rfl rfl ?_ (fun _ _ h => by cases h) ?_ List.prefix_rfl⟩
    · rcases hsender with hsender | hsender <;> rw [hsender] <;> rfl
    · rcases hsender with hsender | hsender <;> rw [hsender] <;> rfl
  | block hsender =>
    refine ⟨_, _, h.congr rfl rfl ?_ (fun _ _ h => by cases h) ?_ List.prefix_rfl⟩
    · rw [hsender]
      rfl
    · rw [hsender]
      rfl
  | accept | ignore | overrun | recvError | transmit | abort =>
    exact ⟨_, _, h.congr rfl rfl rfl (fun _ _ _ => rfl) rfl List.prefix_rfl⟩
  | skip | refuse | reply | crash | register =>
    exact ⟨_, _, h.congr rfl rfl rfl (fun _ _ _ => rfl) rfl (List.prefix_append _ _)⟩
  | @complete buf packet tag recvTag t channel _ _ hsender htag _ hrecvTag hmatches =>
    have hsources := h.sublist
    rw [hsender] at hsources
    refine ⟨exchanges, unanswered, h.converses, h.answers, fun hover => ?_, ?_, ?_⟩
    · rw [h.eq_packet hover, hsender]
      rfl
    · intro packet' bytes hreply
      obtain ⟨rfl, hbytes⟩ := Sender.awaiting.inj hreply
      obtain rfl := Option.some.inj hbytes
      rw [SimpleNetwork.matchesFlow, Bool.and_eq_true, Bool.and_eq_true, beq_iff_eq, bne_iff_ne,
        beq_iff_eq] at hmatches
      obtain ⟨⟨hmsgTag, howner⟩, hsource⟩ := hmatches
      exact ⟨tag, recvTag, htag, hrecvTag, hmsgTag.symm, howner.symm, hsource.symm⟩
    · change List.Sublist (exchanges.map Prod.snd ++ [buf.drop 4])
        ((datagrams (p.handled ++ [.receiveMsg buf])).map (List.drop 4))
      rw [datagrams_append, List.map_append]
      exact hsublist.append_right _

end Answered

/-! ### Frames -/

/-- The frames that were sent, and the one that waits for the socket, belong to commands of their
own, in order. -/
def Framed (cfg : TransportConfig) (p : Program) : Prop :=
  ∃ commands, List.Sublist commands p.handled ∧ List.Forall₂ (FrameOf cfg) commands
    (p.sent ++ (p.transport.bind Transport.sending).toList)

theorem Takes.bind_sending {t : Transport} {cmd : PhysicalTransportCommands}
    {channel : BoundedChannel PhysicalTransportCommands 32} (h : p.Takes t cmd channel) :
    p.transport.bind Transport.sending = none := by
  rw [h.transport]
  exact h.sending

/-- A step that sends nothing, and may take a command. -/
theorem Framed.keep (h : p.Framed cfg) (hhandled : p.handled <+: p'.handled)
    (hsent : p'.sent ++ (p'.transport.bind Transport.sending).toList <+:
      p.sent ++ (p.transport.bind Transport.sending).toList) : p'.Framed cfg := by
  obtain ⟨commands, hcommands, hframes⟩ := h
  obtain ⟨rest, hrest⟩ := hsent
  rw [← hrest] at hframes
  -- A frame that is lost with its task takes its command with it.
  have htake := List.forall₂_take_append commands _ rest hframes
  exact ⟨_, (List.take_sublist _ _).trans (hcommands.trans hhandled.sublist), htake⟩

/-- A command whose frame waits for the socket. -/
theorem Framed.concat (h : p.Framed cfg) {t : Transport} {cmd : PhysicalTransportCommands}
    {frame : Bytes} {channel : BoundedChannel PhysicalTransportCommands 32}
    (htakes : p.Takes t cmd channel) (hframe : FrameOf cfg cmd frame) (sender : Sender)
    (loop : State) (pendingCmd : List (MsgFlowTag × ℕ)) :
    Framed cfg { p with
      loop, sender, transport := some ⟨channel, pendingCmd, some frame⟩
      handled := p.handled ++ [cmd] } := by
  obtain ⟨commands, hcommands, hframes⟩ := h
  rw [htakes.bind_sending, Option.toList_none, List.append_nil] at hframes
  refine ⟨commands ++ [cmd], hcommands.append_right _, ?_⟩
  exact List.rel_append hframes (.cons hframe .nil)

/-- Every transition keeps the order of the frames. -/
theorem Framed.transition (h : p.Framed cfg) (hstep : Transition cfg pingEid p e p') :
    p'.Framed cfg := by
  cases hstep with
  | turn | wake | deliver | ignore | overrun | recvError =>
    exact h.keep List.prefix_rfl List.prefix_rfl
  | enqueue _ htransport | block _ htransport | accept _ _ htransport =>
    refine h.keep List.prefix_rfl ?_
    rw [htransport]
    exact List.prefix_rfl
  | skip htakes | complete htakes | refuse htakes =>
    refine h.keep (List.prefix_append _ _) ?_
    rw [htakes.bind_sending]
    exact List.prefix_rfl
  | reply htakes hresponder hreply hframe =>
    exact h.concat htakes (.reply p.loop.ctx hreply hframe) p.sender _ _
  | register htakes hsender htag hframe =>
    exact h.concat htakes (.request _ hframe) p.sender p.loop _
  | crash =>
    refine h.keep (List.prefix_append _ _) ?_
    exact (List.prefix_append_right_inj p.sent).mpr (List.nil_prefix)
  | abort =>
    refine h.keep List.prefix_rfl ?_
    exact (List.prefix_append_right_inj p.sent).mpr (List.nil_prefix)
  | @transmit frame t htransport hsending =>
    refine h.keep List.prefix_rfl ?_
    have hbind : p.transport.bind Transport.sending = some frame := by
      rw [htransport]
      exact hsending
    rw [hbind]
    change p.sent ++ [_] ++ [] <+: p.sent ++ [_]
    rw [List.append_nil]

/-- Every run keeps the conversation and the order of the frames. -/
theorem delivers_run {C : Program → Event → Prop} {ctx : MctpEndpointContext} {es : List Event}
    (h : StepSystem.Run (step cfg pingEid) C (init ctx) es p) :
    (∃ exchanges unanswered, p.Answered exchanges unanswered) ∧ p.Framed cfg := by
  have hinv := h.invariant
    (I := fun p => p.WellFormed ∧ (∃ exchanges unanswered, p.Answered exchanges unanswered) ∧
      p.Framed cfg)
    ⟨wellFormed_init ctx, ⟨_, _, .init ctx⟩, [], List.nil_sublist _, .nil⟩
    fun p e p' hp _ hstep => by
      obtain ⟨hwf, ⟨exchanges, unanswered, hanswered⟩, hframed⟩ := hp
      have htransition := transition_of_step hwf hstep
      exact ⟨hwf.step hstep, hanswered.transition hwf htransition, hframed.transition htransition⟩
  exact hinv.2

end Runs

/-! ### Results -/

section Results

variable (cfg : TransportConfig) (pingEid : UInt8) (ctx : MctpEndpointContext) (es : List Event)
  (p : Program) (h : StepSystem.Run (step cfg pingEid) (fun _ _ => True) (init ctx) es p)

include h

/-- The transport task takes the datagrams that arrive, cut to 4096 bytes and without the empty
ones, in their order, each once; while both tasks are there, the others are in the channel. -/
theorem datagrams_in_order :
    datagrams p.handled <+: arrivals es ∧
      (p.receiving = true → ∀ t, p.transport = some t →
        arrivals es = datagrams p.handled ++ datagrams t.channel.queue) := by
  have horder := ordered_run h
  obtain ⟨hfirst, hall⟩ := datagrams_accepted_run h
  refine ⟨(horder.received_prefix.filterMap _).trans hfirst, fun hreceiving t ht => ?_⟩
  rw [← hall hreceiving, horder.sent_eq t.channel (by rw [ht]; rfl), datagrams_append]

/-- The transport task takes the requests of the loop in their order, each once and with a channel
of its own; while the loop goes on and the task is there, the others are in the channel or with the
sender of the loop. -/
theorem requests_in_order :
    requestCommands p.handled <+: numbered (requests p.loop.history) ∧
      (p.loop.phase.isOver = false → ∀ t, p.transport = some t →
        numbered (requests p.loop.history) = requestCommands p.handled ++ t.requests ++
          ((unsent p.sender).map fun b => (b, some p.returned)).toList) := by
  have horder := ordered_run h
  have hhanded := handed_run h
  refine ⟨(horder.received_prefix.filterMap _).trans hhanded.is_prefix, fun hover t ht => ?_⟩
  rw [hhanded.eq_append hover, horder.sent_eq t.channel (by rw [ht]; rfl), requestCommands_append]
  rfl

/-- The requests and responses of the loop alternate. Each response answers the request right before
it, and is the packet of a datagram that completes no other request; only the last request can be
without one, while the loop waits or after its end. -/
theorem responses_in_order :
    ∃ exchanges unanswered, Converses p.loop.history exchanges unanswered ∧
      (∀ x ∈ exchanges, Answers x.1 x.2) ∧
      List.Sublist (exchanges.map Prod.snd) ((datagrams p.handled).map (List.drop 4)) ∧
      (p.loop.phase.isOver = false → unanswered.isSome = p.loop.phase.awaits) := by
  obtain ⟨⟨exchanges, unanswered, hanswered⟩, -⟩ := delivers_run h
  refine ⟨exchanges, unanswered, hanswered.converses, hanswered.answers,
    (List.sublist_append_left _ _).trans hanswered.sublist, fun hover => ?_⟩
  rw [hanswered.eq_packet hover]
  exact (wellFormed_run h).packet_isSome

/-- Every frame that is sent is that of a request of the loop, or of the reply to a datagram; each
command is sent at most one frame for, in the order of the commands. -/
theorem frames_in_order :
    ∃ commands, List.Sublist commands p.handled ∧
      List.Forall₂ (FrameOf cfg) commands p.sent := by
  obtain ⟨-, commands, hcommands, hframes⟩ := delivers_run h
  exact ⟨_, (List.take_sublist _ _).trans hcommands, List.forall₂_take_append commands _ _ hframes⟩

end Results

/-- The transport task takes the one response. -/
theorem datagrams_in_order_sampleExchange :
    datagrams sampleAnswered.handled <+: arrivals sampleExchange ∧
      (sampleAnswered.receiving = true → ∀ t, sampleAnswered.transport = some t →
        arrivals sampleExchange =
          datagrams sampleAnswered.handled ++ datagrams t.channel.queue) :=
  datagrams_in_order Session.sampleConfig 0 _ _ _ run_sampleExchange

/-- The transport task takes the one request, with the first channel. -/
theorem requests_in_order_sampleExchange :
    requestCommands sampleAnswered.handled <+: [(sampleRequest, some 0)] :=
  (requests_in_order Session.sampleConfig 0 _ _ _ run_sampleExchange).1

/-- The response of the sample answers its request. -/
theorem responses_in_order_sampleExchange : ∃ exchanges unanswered,
    Converses [.request sampleRequest, .response (sampleStatic ++ [0x00])] exchanges unanswered ∧
      ∀ x ∈ exchanges, Answers x.1 x.2 := by
  obtain ⟨exchanges, unanswered, hconverses, hanswers, -, -⟩ :=
    responses_in_order Session.sampleConfig 0 _ _ _ run_sampleExchange
  exact ⟨exchanges, unanswered, hconverses, hanswers⟩

/-- The frames of the sample belong to its commands. -/
theorem frames_in_order_sampleExchange : ∃ commands, List.Sublist commands sampleCommands ∧
    List.Forall₂ (FrameOf Session.sampleConfig) commands sampleFrames :=
  frames_in_order Session.sampleConfig 0 _ _ _ run_sampleExchange

end Program

end BusOwner

end MctpEmu
