import MctpEmu.BusOwner.Program

/-!
# The program refines the loop

Under any order of its steps, the program of a bus owner does to its loop what the loop does alone,
as far as the loop can tell: it gets responses or loses the transport task, and its context changes
between its steps when the responder handles a packet.

## Main definitions

* `BusOwner.Program.served`: the packet that the next command passes to the responder.
* `BusOwner.Program.loopEvents`: the steps of the loop that an event stands for.

## Main results

* `BusOwner.Program.wellFormed_run`: the invariant holds in every run.
* `BusOwner.Program.request_held`: the request that the loop waits for is in one place.
* `BusOwner.Program.refines_loop`: the program refines the loop.
-/

namespace MctpEmu

namespace BusOwner

namespace Program

/-! ### The invariant of a run -/

section Runs

variable {cfg : TransportConfig} {pingEid : UInt8} {p p' : Program}

/-- A loop that goes on hands over a packet exactly when it begins to wait. -/
theorem sender_goOn (p : Program) {loop : State} {e : BusOwner.Event}
    (he : ∀ bytes, e ≠ .handleRequest bytes)
    (hloop : BusOwner.step cfg.overflowChecks pingEid p.loop e = some loop) :
    (loop.phase.awaits = false ∧ (p.goOn loop).sender = .idle ∧
        loop.history = p.loop.history ++ e.heard) ∨
      loop.phase.awaits = true ∧ ∃ (q : Request) (ctx : MctpEndpointContext),
        (p.goOn loop).sender = .handing (q.send ctx).1 ∧
        loop.history = p.loop.history ++ e.heard ++ [.request (q.send ctx).1] := by
  rcases history_of_step he hloop with ⟨hawaits, hhistory⟩ | ⟨hawaits, q, ctx, hhistory⟩
  · exact .inl ⟨hawaits, by simp only [goOn, hawaits], hhistory⟩
  · have hlast : loop.history.getLast? = some (.request (q.send ctx).1) := by
      rw [hhistory, List.getLast?_concat]
    exact .inr ⟨hawaits, q, ctx, by simp only [goOn, hawaits, hlast], hhistory⟩

theorem wellFormed_init (ctx : MctpEndpointContext) : (init ctx).WellFormed where
  packet_isSome := rfl
  isPacketSize packet h := by cases h
  custody t h := by
    obtain rfl := Option.some.inj h
    exact .away (fun _ => Sender.noConfusion) rfl rfl
  waiting t h := by
    obtain rfl := Option.some.inj h
    rfl

namespace WellFormed

/-- The loop goes on while the transport task has nothing of it. -/
theorem goOn (hp : p.WellFormed) {loop : State} {e : BusOwner.Event}
    (he : ∀ bytes, e ≠ .handleRequest bytes)
    (hloop : BusOwner.step cfg.overflowChecks pingEid p.loop e = some loop)
    (haway : ∀ t, p.transport = some t →
      p.sender.waiting = 0 ∧ ∀ packet, p.sender ≠ .awaiting packet none)
    (returned : ℕ) : ({ p.goOn loop with returned } : Program).WellFormed := by
  have hsender := sender_goOn p he hloop
  refine ⟨?_, ?_, fun t ht => ?_, fun t ht => ?_⟩
  · rcases hsender with ⟨hawaits, hsender, -⟩ | ⟨hawaits, q, ctx, hsender, -⟩
    · rw [hsender]
      exact hawaits.symm
    · rw [hsender]
      exact hawaits.symm
  · rcases hsender with ⟨-, hsender, -⟩ | ⟨-, q, ctx, hsender, -⟩
    · rw [hsender]
      intro packet hpacket
      cases hpacket
    · rw [hsender]
      intro packet hpacket
      obtain rfl := Option.some.inj hpacket
      exact q.isPacketSize_send ctx
  · have hnone : ∀ packet, (p.goOn loop).sender ≠ .awaiting packet none := by
      rcases hsender with ⟨-, hsender, -⟩ | ⟨-, q, ctx, hsender, -⟩ <;> rw [hsender] <;>
        exact fun _ => Sender.noConfusion
    cases hp.custody t ht with
    | away _ hqueue hpending => exact .away hnone hqueue hpending
    | queued hawaiting | pending hawaiting => exact absurd hawaiting ((haway t ht).2 _)
  · have hzero : (p.goOn loop).sender.waiting = 0 := by
      rcases hsender with ⟨-, hsender, -⟩ | ⟨-, q, ctx, hsender, -⟩ <;> rw [hsender] <;> rfl
    exact (hp.waiting t ht).trans ((haway t ht).1.trans hzero.symm)

/-- The sender of a loop that does not wait has nothing to do. -/
theorem sender_eq_idle (hp : p.WellFormed) (h : p.loop.phase.awaits = false) :
    p.sender = .idle := by
  have hnone := hp.packet_isSome.trans h
  cases hsender : p.sender with
  | idle => rfl
  | handing | blocked | awaiting =>
    rw [hsender] at hnone
    cases hnone

/-- A loop that does not wait has no packet with the transport task. -/
theorem away_of_not_awaits (hp : p.WellFormed) (h : p.loop.phase.awaits = false) :
    p.sender.waiting = 0 ∧ ∀ packet, p.sender ≠ .awaiting packet none := by
  rw [hp.sender_eq_idle h]
  exact ⟨rfl, fun _ => Sender.noConfusion⟩

/-- The responder leaves what the loop waits for alone. -/
theorem respond (hp : p.WellFormed) {packet : Bytes} {t' : Option Transport}
    (handled : List PhysicalTransportCommands)
    (hcustody : ∀ t, t' = some t → Custody p.sender p.returned t)
    (hwaiting : ∀ t, t' = some t → t.channel.reserved + t.channel.waiting = p.sender.waiting) :
    ({ p with loop := p.respond packet, transport := t', handled } : Program).WellFormed :=
  ⟨hp.packet_isSome, hp.isPacketSize, hcustody, hwaiting⟩

end WellFormed

/-- Taking a datagram out of the channel leaves the requests there. -/
theorem Takes.requests_eq {t : Transport} {cmd : PhysicalTransportCommands}
    {channel : BoundedChannel PhysicalTransportCommands 32} (h : p.Takes t cmd channel) :
    t.requests =
        cmd.request.toList ++ channel.queue.filterMap PhysicalTransportCommands.request ∧
      channel.reserved + channel.waiting = t.channel.reserved + t.channel.waiting := by
  obtain ⟨hqueue, hwaiting⟩ := BoundedChannel.recv_eq_some h.recv
  refine ⟨?_, hwaiting⟩
  rw [Transport.requests, hqueue, List.filterMap_cons]
  cases cmd <;> rfl

/-- A transport task with the same requests has the custody of the same request. -/
theorem Custody.congr {sender : Sender} {returned : ℕ} {t t' : Transport}
    (h : Custody sender returned t) (hrequests : t'.requests = t.requests)
    (hpending : t'.pendingCmd = t.pendingCmd) : Custody sender returned t' := by
  cases h with
  | away hsender hqueue hnil => exact .away hsender (hrequests.trans hqueue) (hpending.trans hnil)
  | queued hsender hqueue hnil =>
    exact .queued hsender (hrequests.trans hqueue) (hpending.trans hnil)
  | pending hsender hqueue htag hlist =>
    exact .pending hsender (hrequests.trans hqueue) htag (hpending.trans hlist)

/-- Every transition keeps the invariant. -/
theorem WellFormed.transition (hp : p.WellFormed) {e : Event}
    (h : Transition cfg pingEid p e p') : p'.WellFormed := by
  cases h with
  | turn hloop =>
    have hrest : p.loop.phase.awaits = false := by rw [(goesOn_of_turn hloop).1]; rfl
    exact hp.goOn (fun _ => BusOwner.Event.noConfusion) hloop
      (fun _ _ => hp.away_of_not_awaits hrest) p.returned
  | wake hloop =>
    have hrest : p.loop.phase.awaits = false := by rw [(goesOn_of_wake hloop).1]; rfl
    exact hp.goOn (fun _ => BusOwner.Event.noConfusion) hloop
      (fun _ _ => hp.away_of_not_awaits hrest) p.returned
  | deliver hdelivers hloop =>
    refine hp.goOn (fun _ => BusOwner.Event.noConfusion) hloop (fun t ht => ?_) _
    cases hdelivers with
    | unsent _ hnone | abandoned _ hnone =>
      rw [hnone] at ht
      cases ht
    | response hsender =>
      rw [hsender]
      exact ⟨rfl, fun packet h => by cases h⟩
  | @enqueue packet t channel hsender htransport hqueue hwaiting =>
    have hpacket : p.sender.packet = some packet := by
      rcases hsender with hsender | hsender <;> rw [hsender] <;> rfl
    refine ⟨?_, fun _ h => hp.isPacketSize _ (hpacket.trans h), fun t' ht => ?_, fun t' ht => ?_⟩
    · rw [← hp.packet_isSome, hpacket]
      rfl
    · obtain rfl := Option.some.inj ht
      cases hp.custody t htransport with
      | away _ hrequests hpending =>
        refine .queued rfl ?_ hpending
        rw [Transport.requests] at hrequests ⊢
        rw [hqueue, List.filterMap_append, hrequests]
        rfl
      | queued hawaiting | pending hawaiting =>
        rcases hsender with hsender | hsender <;> cases hsender.symm.trans hawaiting
    · obtain rfl := Option.some.inj ht
      exact hwaiting
  | @block packet t channel hsender htransport hqueue hwaiting =>
    refine ⟨?_, fun _ h => hp.isPacketSize _ (by rw [hsender]; exact h), fun t' ht => ?_,
      fun t' ht => ?_⟩
    · rw [← hp.packet_isSome, hsender]
      rfl
    · obtain rfl := Option.some.inj ht
      have hrequests : ({ t with channel } : Transport).requests = t.requests := by
        rw [Transport.requests, hqueue]
        rfl
      cases hp.custody t htransport with
      | away _ hqueue hpending =>
        exact .away (fun _ => Sender.noConfusion) (hrequests.trans hqueue) hpending
      | queued hawaiting | pending hawaiting => cases hsender.symm.trans hawaiting
    · obtain rfl := Option.some.inj ht
      exact hwaiting
  | @accept buf t channel _ _ htransport _ hqueue hwaiting =>
    refine ⟨hp.packet_isSome, hp.isPacketSize, fun t' ht => ?_, fun t' ht => ?_⟩
    · obtain rfl := Option.some.inj ht
      refine (hp.custody t htransport).congr ?_ rfl
      rw [Transport.requests, hqueue, List.filterMap_append]
      exact List.append_nil _
    · obtain rfl := Option.some.inj ht
      exact hwaiting.trans (hp.waiting t htransport)
  | ignore => exact hp
  | overrun | recvError => exact ⟨hp.packet_isSome, hp.isPacketSize, hp.custody, hp.waiting⟩
  | @skip buf t channel htakes =>
    obtain ⟨hrequests, hwaiting⟩ := htakes.requests_eq
    refine ⟨hp.packet_isSome, hp.isPacketSize, fun t' ht => ?_, fun t' ht => ?_⟩
    · obtain rfl := Option.some.inj ht
      exact (hp.custody t htakes.transport).congr hrequests.symm rfl
    · obtain rfl := Option.some.inj ht
      exact hwaiting.trans (hp.waiting t htakes.transport)
  | @complete buf packet tag recvTag t channel htakes _ hsender _ hpending =>
    obtain ⟨hrequests, hwaiting⟩ := htakes.requests_eq
    refine ⟨?_, fun _ h => hp.isPacketSize _ (by rw [hsender]; exact h), fun t' ht => ?_,
      fun t' ht => ?_⟩
    · rw [← hp.packet_isSome, hsender]
      rfl
    · obtain rfl := Option.some.inj ht
      cases hp.custody t htakes.transport with
      | away hnone => exact absurd hsender (hnone packet)
      | queued _ _ hnil => rw [hpending] at hnil; cases hnil
      | pending _ hqueue =>
        exact .away (fun _ h => by cases h) (hrequests.symm.trans hqueue) rfl
    · obtain rfl := Option.some.inj ht
      rw [hwaiting, hp.waiting t htakes.transport, hsender]
      rfl
  | @refuse buf t channel htakes | @reply buf _ _ t channel htakes =>
    obtain ⟨hrequests, hwaiting⟩ := htakes.requests_eq
    refine hp.respond _ (fun t' ht => ?_) fun t' ht => ?_
    · obtain rfl := Option.some.inj ht
      exact (hp.custody t htakes.transport).congr hrequests.symm rfl
    · obtain rfl := Option.some.inj ht
      exact hwaiting.trans (hp.waiting t htakes.transport)
  | crash => exact hp.respond _ (fun _ h => by cases h) fun _ h => by cases h
  | @register packet frame tag t channel htakes hsender htag =>
    obtain ⟨hrequests, hwaiting⟩ := htakes.requests_eq
    refine ⟨hp.packet_isSome, hp.isPacketSize, fun t' ht => ?_, fun t' ht => ?_⟩
    · obtain rfl := Option.some.inj ht
      cases hp.custody t htakes.transport with
      | away hnone => exact absurd hsender (hnone packet)
      | queued _ hqueue =>
        refine .pending hsender ?_ htag rfl
        exact (List.cons.inj (hrequests.symm.trans hqueue)).2
      | pending _ hqueue => rw [hqueue] at hrequests; cases hrequests
    · obtain rfl := Option.some.inj ht
      exact hwaiting.trans (hp.waiting t htakes.transport)
  | @transmit frame t htransport =>
    refine ⟨hp.packet_isSome, hp.isPacketSize, fun t' ht => ?_, fun t' ht => ?_⟩
    · obtain rfl := Option.some.inj ht
      exact (hp.custody t htransport).congr rfl rfl
    · obtain rfl := Option.some.inj ht
      exact hp.waiting t htransport
  | abort =>
    refine ⟨hp.packet_isSome, hp.isPacketSize, fun _ ht => ?_, fun _ ht => ?_⟩
    · cases ht
    · cases ht

theorem WellFormed.step (hp : p.WellFormed) {e : Event} (h : step cfg pingEid p e = some p') :
    p'.WellFormed :=
  hp.transition (transition_of_step hp h)

/-- Every run keeps the invariant. -/
theorem wellFormed_run {C : Program → Event → Prop} {ctx : MctpEndpointContext} {es : List Event}
    (h : StepSystem.Run (Program.step cfg pingEid) C (init ctx) es p) : p.WellFormed :=
  h.invariant (wellFormed_init ctx) fun _ _ _ hp _ hstep => hp.step hstep

/-- While the transport task is there, it has exactly one sender of a one-shot channel if the loop
waits for a response that has not come, that of the request, either in the channel or among the
pending commands; and none otherwise. -/
theorem request_held (cfg : TransportConfig) (pingEid : UInt8) (ctx : MctpEndpointContext)
    (es : List Event) (p : Program)
    (h : StepSystem.Run (step cfg pingEid) (fun _ _ => True) (init ctx) es p) (t : Transport)
    (ht : p.transport = some t) :
    t.requests.map Prod.snd ++ t.pendingCmd.map (fun flow => some flow.2) =
      match p.sender with
      | .awaiting _ none => [some p.returned]
      | _ => [] := by
  cases (wellFormed_run h).custody t ht with
  | away hsender hqueue hpending =>
    rw [hqueue, hpending]
    cases hstage : p.sender with
    | idle | handing | blocked => rfl
    | awaiting packet reply =>
      cases reply with
      | none => exact absurd hstage (hsender packet)
      | some bytes => rfl
  | queued hsender hqueue hpending =>
    rw [hqueue, hpending, hsender]
    rfl
  | pending hsender hqueue _ hpending =>
    rw [hqueue, hpending, hsender]
    rfl

/-! ### The program refines the loop -/

/-- The packet that the next command passes to the responder. -/
def served (p : Program) : Option Bytes :=
  match p.transport with
  | none => none
  | some t =>
    match t.channel.queue.head? with
    | some (.receiveMsg buf) => if p.ToResponder t buf then some (buf.drop 4) else none
    | _ => none

/-- The steps of the loop that an event stands for. -/
def loopEvents (p : Program) : Event → List BusOwner.Event
  | .turn => [.turn]
  | .wake => [.wake]
  | .handOver => if p.transport.isNone then [.deliver .unsent] else []
  | .resume =>
    match p.sender with
    | .awaiting _ (some bytes) => [.deliver (.response bytes)]
    | _ => [.deliver .abandoned]
  | .command => p.served.toList.map .handleRequest
  | .arrive _ | .recvError | .transmit _ => []

theorem loopEvents_of_delivers {e : Event} {d : Delivery} (h : p.Delivers e d) :
    p.loopEvents e = [.deliver d] := by
  cases h with
  | unsent _ htransport => rw [loopEvents, htransport]; rfl
  | response hsender => simp only [loopEvents, hsender]
  | abandoned hsender => simp only [loopEvents, hsender]

/-- The next command of a transport task that is about to take a command. -/
theorem served_of_takes {t : Transport} {cmd : PhysicalTransportCommands}
    {channel : BoundedChannel PhysicalTransportCommands 32} (h : p.Takes t cmd channel) :
    p.served = match cmd with
      | .receiveMsg buf => if p.ToResponder t buf then some (buf.drop 4) else none
      | .sendMsg _ _ => none := by
  obtain ⟨hqueue, -⟩ := BoundedChannel.recv_eq_some h.recv
  simp only [served, h.transport, hqueue, List.head?_cons]
  cases cmd <;> rfl

/-- An I/O error in the place of a response. -/
def IsFailed (e : BusOwner.Event) : Prop := ∃ error, e = .deliver (.failed error)

/-- A step of the program is the steps of the loop that its event stands for. -/
theorem run_loopEvents (hp : p.WellFormed) {e : Event} (h : step cfg pingEid p e = some p') :
    StepSystem.Run (BusOwner.step cfg.overflowChecks pingEid) (fun _ e => ¬ IsFailed e)
      p.loop (p.loopEvents e) p'.loop := by
  have hsingle {s s' : State} {e : BusOwner.Event}
      (hstep : BusOwner.step cfg.overflowChecks pingEid s e = some s')
      (hfailed : ¬ IsFailed e) : StepSystem.Run (BusOwner.step cfg.overflowChecks pingEid)
        (fun _ e => ¬ IsFailed e) s [e] s' := .cons hstep hfailed .nil
  have hnot {e : BusOwner.Event} (he : ∀ d, e ≠ .deliver d) : ¬ IsFailed e :=
    fun ⟨error, hfailed⟩ => he _ hfailed
  have hserved {t : Transport} {buf : Bytes}
      {channel : BoundedChannel PhysicalTransportCommands 32}
      (htakes : p.Takes t (.receiveMsg buf) channel) (hresponder : p.ToResponder t buf) :
      StepSystem.Run (BusOwner.step cfg.overflowChecks pingEid) (fun _ e => ¬ IsFailed e)
        p.loop (p.loopEvents .command) (p.respond (buf.drop 4)) := by
    rw [loopEvents, served_of_takes htakes]
    simp only [if_pos hresponder]
    exact hsingle rfl (hnot fun _ => BusOwner.Event.noConfusion)
  cases transition_of_step hp h with
  | turn hloop => exact hsingle hloop (hnot fun _ => BusOwner.Event.noConfusion)
  | wake hloop => exact hsingle hloop (hnot fun _ => BusOwner.Event.noConfusion)
  | deliver hdelivers hloop =>
    rw [loopEvents_of_delivers hdelivers]
    refine hsingle hloop ?_
    rintro ⟨error, herror⟩
    cases BusOwner.Event.deliver.inj herror
    cases hdelivers
  | enqueue _ htransport | block _ htransport =>
    rw [loopEvents, htransport]
    exact .nil
  | accept | ignore | overrun | recvError | transmit | abort => exact .nil
  | skip htakes hframe =>
    rw [loopEvents, served_of_takes htakes]
    simp only [if_neg fun hresponder : p.ToResponder _ _ => hframe hresponder.1]
    exact .nil
  | complete htakes hframe hsender htag hpending hrecvTag hmatches =>
    rw [loopEvents, served_of_takes htakes]
    have hfits : ¬ p.ToResponder _ _ := fun hresponder => by
      have hnone := hresponder.2
      rw [TransportTask.firstPending, hrecvTag, Option.bind_some, task, hpending,
        List.find?_cons_of_pos hmatches] at hnone
      cases hnone
    simp only [if_neg hfits]
    exact .nil
  | refuse htakes hresponder | reply htakes hresponder | crash htakes hresponder =>
    exact hserved htakes hresponder
  | register htakes =>
    rw [loopEvents, served_of_takes htakes]
    exact .nil

/-- In every run of the program, under any order of the steps of its loop, its tasks and its socket,
the loop does what it does alone with the responses that it gets and the packets that reach the
responder; it never gets an I/O error in the place of a response. -/
theorem refines_loop (cfg : TransportConfig) (pingEid : UInt8) (ctx : MctpEndpointContext)
    (es : List Event) (p : Program)
    (h : StepSystem.Run (step cfg pingEid) (fun _ _ => True) (init ctx) es p) :
    StepSystem.Run (BusOwner.step cfg.overflowChecks pingEid) (fun _ e => ¬ IsFailed e)
      (BusOwner.init ctx) (StepSystem.trace (step cfg pingEid) loopEvents (init ctx) es) p.loop :=
  h.simulates loop (wellFormed_init ctx) (fun _ _ _ hp _ hstep => hp.step hstep)
    fun _ _ _ hp _ hstep => run_loopEvents hp hstep

end Runs

/-- A notification that an endpoint with EID 10 sends. -/
def sampleNotify : Bytes := [0x01, 0x00, 0x0A, 0xC8, 0x00, 0x81, 0x0D]

/-- The response of an endpoint with a static EID to the request with tag 1. -/
def sampleStatic : Bytes := [0x01, 0x00, 0x00, 0xC1, 0x00, 0x01, 0x02, 0x00, 0x0A, 0x01, 0x00]

/-- A notification is answered, and the loop then asks the endpoint for its EID. -/
def sampleExchange : List Event :=
  [.arrive ([0x20, 0x0F, 0x08, 0x61] ++ sampleNotify ++ [0x00]), .command, .transmit (.ok 13),
    .turn, .handOver, .command, .transmit (.ok 12),
    .arrive ([0x20, 0x0F, 0x0C, 0x61] ++ sampleStatic ++ [0x00]), .command, .resume]

/-- The start of the sample: a bus owner that waits for a notification. -/
def sampleInit : Program := init ⟨0x00, false, 0x80, 32, 1, 1⟩

/-- The request of the sample. -/
def sampleRequest : Bytes := [0x01, 0x00, 0x00, 0xC9, 0x00, 0x81, 0x02]

/-- The commands of the sample. -/
def sampleCommands : List PhysicalTransportCommands :=
  [.receiveMsg ([0x20, 0x0F, 0x08, 0x61] ++ sampleNotify ++ [0x00]),
    .sendMsg sampleRequest (some 0),
    .receiveMsg ([0x20, 0x0F, 0x0C, 0x61] ++ sampleStatic ++ [0x00])]

/-- The frames of the sample: the reply to the notification, and the request. -/
def sampleFrames : List Bytes :=
  [[0x60, 0x0F, 0x09, 0x21, 0x01, 0x0A, 0x00, 0xC0, 0x00, 0x01, 0x0D, 0x00, 0xD9],
    [0x60, 0x0F, 0x08, 0x21] ++ sampleRequest ++ [0xA8]]

/-- The end of the sample; the packet error code of the response is part of its packet. -/
def sampleAnswered : Program where
  loop := ⟨⟨0x00, false, 0x80, 32, 2, 2⟩, 0x80, .top,
    [.request sampleRequest, .response (sampleStatic ++ [0x00])]⟩
  sender := .idle
  returned := 1
  transport := some ⟨.empty _ 32, [], none⟩
  receiving := true
  accepted := sampleCommands
  handled := sampleCommands
  sent := sampleFrames

theorem run_sampleExchange : StepSystem.Run (step Session.sampleConfig 0) (fun _ _ => True)
    sampleInit sampleExchange sampleAnswered :=
  StepSystem.Run.of_foldlM_eq (by decide +kernel)

/-- The sample before the response arrives. -/
def sampleAwaiting : Program where
  loop := ⟨⟨0x00, false, 0x80, 32, 2, 2⟩, 0x80, .gettingEid, [.request sampleRequest]⟩
  sender := .awaiting sampleRequest none
  returned := 0
  transport := some ⟨.empty _ 32, [(⟨0, 0, 1, true⟩, 0)], none⟩
  receiving := true
  accepted := sampleCommands.take 2
  handled := sampleCommands.take 2
  sent := sampleFrames

theorem run_sampleAwaiting : StepSystem.Run (step Session.sampleConfig 0) (fun _ _ => True)
    sampleInit (sampleExchange.take 7) sampleAwaiting :=
  StepSystem.Run.of_foldlM_eq (by decide +kernel)

/-- The request is among the pending commands before its response arrives. -/
theorem request_held_sampleAwaiting :
    ([] : List (Bytes × Option ℕ)).map Prod.snd ++ [some 0] =
      match sampleAwaiting.sender with
      | .awaiting _ none => [some sampleAwaiting.returned]
      | _ => [] :=
  request_held Session.sampleConfig 0 _ _ _ run_sampleAwaiting _ rfl

/-- To the loop it is three steps. -/
theorem refines_loop_sampleExchange :
    StepSystem.Run (BusOwner.step true 0) (fun _ e => ¬ IsFailed e)
      (BusOwner.init ⟨0x00, false, 0x80, 32, 1, 1⟩)
      [.handleRequest (sampleNotify ++ [0x00]), .turn,
        .deliver (.response (sampleStatic ++ [0x00]))] sampleAnswered.loop := by
  have htrace : StepSystem.trace (step Session.sampleConfig 0) loopEvents sampleInit
      sampleExchange = [.handleRequest (sampleNotify ++ [0x00]), .turn,
        .deliver (.response (sampleStatic ++ [0x00]))] := by
    decide +kernel
  rw [← htrace]
  exact refines_loop Session.sampleConfig 0 ⟨0x00, false, 0x80, 32, 1, 1⟩ _ _ run_sampleExchange

end Program

end BusOwner

end MctpEmu
