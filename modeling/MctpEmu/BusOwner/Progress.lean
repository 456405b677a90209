import MctpEmu.BusOwner.LoopRefinement

/-!
# Survival and progress of the program

The tasks of a bus owner end for good when they panic: the receive task with a datagram that finds
no slot of the channel, the transport task with a command byte that the responder does not know, and
both with an error of the socket. Apart from that the program never stops of itself: it comes to
rest only where it waits for the network.

## Main definitions

* `BusOwner.Program.Survives`: no task ends with an event.
* `BusOwner.Program.Event.IsOwn`: a step that the program takes without the network.
* `BusOwner.Program.AwaitsNetwork`: the loop is over, or its request waits for a datagram.

## Main results

* `BusOwner.Program.survives_iff`: the runs after which both tasks are still there.
* `BusOwner.Program.stuck_iff`: the states in which the program has nothing to do.
-/

namespace MctpEmu

namespace BusOwner

namespace Program

section Survival

variable {cfg : TransportConfig} {pingEid : UInt8} {p p' : Program}

/-- No task ends with the event: a datagram that is not empty finds a slot, the socket reports no
error, and the next command has a command byte that is defined if the responder gets it. -/
def Survives (p : Program) : Event → Prop
  | .arrive buf => buf = [] ∨ ∃ t, p.transport = some t ∧ t.channel.HasRoom
  | .recvError | .transmit (.error _) => False
  | .command => ∀ packet c, p.served = some packet → packet[6]? = some c → c ≤ 0x14
  | .turn | .wake | .handOver | .resume | .transmit (.ok _) => True

/-- Both tasks are there. -/
def Alive (p : Program) : Prop := p.receiving = true ∧ p.transport.isSome = true

instance (p : Program) : Decidable p.Alive := inferInstanceAs (Decidable (_ ∧ _))

/-- A packet that is answered or refused has no undefined command byte. -/
theorem le_of_not_panic (ctx : MctpEndpointContext) {packet : Bytes}
    (h : ∀ message, (ctx.handleRequest packet).1 ≠ .panic message) {c : UInt8}
    (hc : packet[6]? = some c) : c ≤ 0x14 := by
  by_contra hundefined
  obtain ⟨message, hpanic⟩ := (ctx.handleRequest_panic_iff packet).mpr ⟨c, hc, hundefined⟩
  exact h message hpanic

/-- A command that is not passed to the responder ends no task. -/
theorem survives_of_served (h : p.served = none) : p.Survives .command := by
  intro packet c hserved
  rw [h] at hserved
  cases hserved

/-- A step keeps both tasks exactly under the condition. -/
theorem alive_iff_of_step (hp : p.WellFormed) {e : Event} (h : step cfg pingEid p e = some p') :
    p'.Alive ↔ p.Alive ∧ p.Survives e := by
  have hserved {t : Transport} {buf : Bytes}
      {channel : BoundedChannel PhysicalTransportCommands 32}
      (htakes : p.Takes t (.receiveMsg buf) channel) (hresponder : p.ToResponder t buf) :
      p.served = some (buf.drop 4) := by
    rw [served_of_takes htakes]
    exact if_pos hresponder
  cases transition_of_step hp h with
  | turn | wake => exact (and_iff_left trivial).symm
  | deliver hdelivers =>
    cases hdelivers <;> exact (and_iff_left trivial).symm
  | enqueue _ htransport | block _ htransport =>
    rw [Alive, Alive, htransport]
    exact (and_iff_left trivial).symm
  | accept _ _ htransport hroom =>
    rw [Alive, Alive, htransport]
    exact (and_iff_left (.inr ⟨_, htransport, hroom⟩)).symm
  | ignore => exact (and_iff_left (.inl rfl)).symm
  | overrun _ hbuf hroom =>
    refine iff_of_false (fun halive => by cases halive.1) ?_
    rintro ⟨-, hempty | ⟨t, ht, hfree⟩⟩
    · exact hbuf hempty
    · exact hroom t ht hfree
  | recvError => exact iff_of_false (fun halive => by cases halive.1) fun hboth => hboth.2
  | skip htakes hframe =>
    have hnone : p.served = none := by
      rw [served_of_takes htakes]
      exact if_neg fun hresponder => hframe hresponder.1
    rw [Alive, Alive, htakes.transport]
    exact (and_iff_left (survives_of_served hnone)).symm
  | complete htakes hframe hsender htag hpending hrecvTag hmatches =>
    have hnone : p.served = none := by
      rw [served_of_takes htakes]
      refine if_neg fun hresponder => ?_
      have hfits := hresponder.2
      rw [TransportTask.firstPending, hrecvTag, Option.bind_some, task, hpending,
        List.find?_cons_of_pos hmatches] at hfits
      cases hfits
    rw [Alive, Alive, htakes.transport]
    exact (and_iff_left (survives_of_served hnone)).symm
  | @refuse buf t channel htakes hresponder hrefused =>
    obtain ⟨e, he⟩ := (p.loop.ctx.handleRequest_err_iff (buf.drop 4)).mpr hrefused
    rw [Alive, Alive, htakes.transport]
    refine (and_iff_left fun packet c hpacket hc => ?_).symm
    obtain rfl := Option.some.inj ((hserved htakes hresponder).symm.trans hpacket)
    exact le_of_not_panic p.loop.ctx (fun message hm => by cases he.symm.trans hm) hc
  | reply htakes hresponder hreply =>
    rw [Alive, Alive, htakes.transport]
    refine (and_iff_left fun packet c hpacket hc => ?_).symm
    obtain rfl := Option.some.inj ((hserved htakes hresponder).symm.trans hpacket)
    exact le_of_not_panic p.loop.ctx (fun message hm => by cases hreply.symm.trans hm) hc
  | crash htakes hresponder hc hundefined =>
    refine iff_of_false (fun halive => by cases halive.2) fun hboth => hundefined ?_
    exact hboth.2 _ _ (hserved htakes hresponder) hc
  | register htakes =>
    rw [Alive, Alive, htakes.transport]
    exact (and_iff_left (survives_of_served (served_of_takes htakes))).symm
  | transmit htransport =>
    rw [Alive, Alive, htransport]
    exact (and_iff_left trivial).symm
  | abort => exact iff_of_false (fun halive => by cases halive.2) fun hboth => hboth.2

end Survival

/-- After a run both tasks are still there exactly when every datagram found a slot or was empty,
the socket reported no error, and the responder got no packet with an undefined command byte. -/
theorem survives_iff (cfg : TransportConfig) (pingEid : UInt8) (ctx : MctpEndpointContext)
    (es : List Event) (p : Program)
    (h : StepSystem.Run (step cfg pingEid) (fun _ _ => True) (init ctx) es p) :
    StepSystem.Run (step cfg pingEid) Survives (init ctx) es p ↔ p.Alive := by
  have hiff := h.and_iff_of_step (wellFormed_init ctx) (fun _ _ _ hp _ hstep => hp.step hstep)
    (P := Alive) ⟨rfl, rfl⟩ fun _ _ _ hp _ hstep => alive_iff_of_step hp hstep
  rw [← hiff]
  exact ⟨fun hrun => hrun.mono fun _ _ hsurvives => ⟨trivial, hsurvives⟩,
    fun hrun => hrun.mono fun _ _ hboth => hboth.2⟩

/-- Both tasks are there after the sample. -/
theorem survives_iff_sampleExchange : sampleAnswered.Alive ∧
    StepSystem.Run (step Session.sampleConfig 0) Survives sampleInit sampleExchange
      sampleAnswered :=
  ⟨⟨rfl, rfl⟩, (survives_iff Session.sampleConfig 0 _ _ _ run_sampleExchange).mpr ⟨rfl, rfl⟩⟩

/-! ### Progress -/

/-- A step that the program takes without the network. -/
def Event.IsOwn : Event → Prop
  | .arrive _ | .recvError => False
  | .turn | .wake | .handOver | .resume | .command | .transmit _ => True

/-- The loop is over, or its request is with a transport task that waits for the response. -/
def AwaitsNetwork (p : Program) : Prop :=
  p.loop.phase.isOver = true ∨ ∃ packet tag t, p.transport = some t ∧
    p.sender = .awaiting packet none ∧ createTag packet = some tag ∧
    t.pendingCmd = [(tag, p.returned)]

/-- The transport task has neither a command nor a frame. -/
def Idle (p : Program) : Prop :=
  ∀ t, p.transport = some t → t.channel.queue = [] ∧ t.sending = none

section Progress

variable {cfg : TransportConfig} {pingEid : UInt8} {p : Program}

/-- A transport task with a command or a frame can go on. -/
theorem idle_of_stuck (h : ∀ e, e.IsOwn → step cfg pingEid p e = none) : p.Idle := by
  intro t ht
  have hsending : t.sending = none := by
    have htransmit := h (.transmit (.ok 0)) trivial
    rw [step, transmit, ht] at htransmit
    cases hframe : t.sending with
    | none => rfl
    | some frame =>
      simp only [hframe] at htransmit
      cases htransmit
  refine ⟨?_, hsending⟩
  have hcommand := h .command trivial
  rw [step, command, ht] at hcommand
  simp only [hsending, Option.isSome_none, Bool.false_eq_true, if_false] at hcommand
  cases hrecv : t.channel.recv with
  | none => exact BoundedChannel.recv_eq_none_iff.mp hrecv
  | some r =>
    simp only [hrecv] at hcommand
    cases hcommand

/-- A sender whose transport task is idle can go on, except for one that waits for a response. -/
theorem awaiting_of_stuck (hp : p.WellFormed) (hawaits : p.loop.phase.awaits = true)
    (h : ∀ e, e.IsOwn → step cfg pingEid p e = none) :
    ∃ packet t, p.sender = .awaiting packet none ∧ p.transport = some t := by
  have hdeliver (d : Delivery) : p.deliver cfg pingEid d ≠ none := by
    obtain ⟨loop, hloop⟩ := exists_step_deliver cfg.overflowChecks pingEid hawaits d
    rw [deliver, hloop]
    exact Option.some_ne_none _
  have hhandOver := h .handOver trivial
  have hresume := h .resume trivial
  have hidle := idle_of_stuck h
  have hsome := hp.packet_isSome.trans hawaits
  rw [step] at hhandOver
  rw [step] at hresume
  cases htransport : p.transport with
  | none =>
    cases hsender : p.sender with
    | idle => rw [hsender] at hsome; cases hsome
    | handing | blocked =>
      simp only [handOver, hsender, htransport] at hhandOver
      exact absurd hhandOver (hdeliver .unsent)
    | awaiting packet reply =>
      cases reply with
      | none =>
        simp only [resume, hsender, htransport, Option.any_none, Bool.false_eq_true,
          if_false] at hresume
        exact absurd hresume (hdeliver .abandoned)
      | some bytes =>
        simp only [resume, hsender] at hresume
        exact absurd hresume (hdeliver (.response bytes))
  | some t =>
    cases hsender : p.sender with
    | idle => rw [hsender] at hsome; cases hsome
    | handing packet =>
      simp only [handOver, hsender, htransport] at hhandOver
      cases hsend : t.channel.trySend (.sendMsg packet (some p.returned)) with
      | some channel =>
        simp only [hsend] at hhandOver
        cases hhandOver
      | none =>
        obtain ⟨channel, hwait⟩ := BoundedChannel.exists_wait_of_trySend_eq_none hsend
        simp only [hsend, hwait] at hhandOver
        cases hhandOver
    | blocked packet =>
      simp only [handOver, hsender, htransport, Option.map_eq_none_iff,
        BoundedChannel.fill_eq_none_iff] at hhandOver
      -- No slot is reserved, so the sender waits for a full channel; but this one is empty.
      have hwaiting := hp.waiting t htransport
      rw [hsender, Sender.waiting, hhandOver, Nat.zero_add] at hwaiting
      have hfull := t.channel.used_eq (by omega)
      rw [(hidle t htransport).1, hhandOver] at hfull
      cases hfull
    | awaiting packet reply =>
      cases reply with
      | none => exact ⟨packet, t, rfl, rfl⟩
      | some bytes =>
        simp only [resume, hsender] at hresume
        exact absurd hresume (hdeliver (.response bytes))

/-- A loop that waits for the network takes no step. -/
theorem loop_of_awaitsNetwork (hp : p.WellFormed) (h : p.AwaitsNetwork) :
    p.loop.phase ≠ .top ∧ p.loop.phase ≠ .sleeping ∧ step cfg pingEid p .handOver = none ∧
      step cfg pingEid p .resume = none := by
  rcases h with hover | ⟨packet, tag, t, htransport, hsender, htag, hpending⟩
  · have hidle : p.sender = .idle := by
      refine hp.sender_eq_idle (Bool.eq_false_iff.mpr fun hawaits => ?_)
      cases hover.symm.trans (BusOwner.Phase.isOver_of_awaits hawaits)
    refine ⟨?_, ?_, ?_, ?_⟩
    · rintro htop
      rw [htop] at hover
      cases hover
    · rintro hsleeping
      rw [hsleeping] at hover
      cases hover
    · simp only [step, handOver, hidle]
    · simp only [step, resume, hidle]
  · have hawaits : p.loop.phase.awaits = true := by
      rw [← hp.packet_isSome, hsender]
      rfl
    refine ⟨?_, ?_, ?_, ?_⟩
    · rintro htop
      rw [htop] at hawaits
      cases hawaits
    · rintro hsleeping
      rw [hsleeping] at hawaits
      cases hawaits
    · simp only [step, handOver, hsender, htransport]
    · have hholds := (hp.custody t htransport).holds hsender
      simp only [step, resume, hsender, htransport, Option.any_some, hholds, if_true]

end Progress

/-- In every state of every run, the program can take no step of its own exactly when its transport
task is idle and the loop is over or waits for the response to a packet that has been taken from the
channel: no order of its steps leads into a deadlock. -/
theorem stuck_iff (cfg : TransportConfig) (pingEid : UInt8) (ctx : MctpEndpointContext)
    (es : List Event) (p : Program)
    (h : StepSystem.Run (step cfg pingEid) (fun _ _ => True) (init ctx) es p) :
    (∀ e, e.IsOwn → step cfg pingEid p e = none) ↔ p.Idle ∧ p.AwaitsNetwork := by
  have hp := wellFormed_run h
  constructor
  · intro hstuck
    have hidle := idle_of_stuck hstuck
    refine ⟨hidle, ?_⟩
    cases hphase : p.loop.phase with
    | top =>
      have hturn := hstuck .turn trivial
      rw [step, BusOwner.step, hphase] at hturn
      simp only [Option.map_eq_none_iff] at hturn
      split_ifs at hturn
    | sleeping =>
      have hwake := hstuck .wake trivial
      rw [step, BusOwner.step, hphase] at hwake
      simp only [Option.map_eq_none_iff] at hwake
      split_ifs at hwake
    | returned | panicked | overflowed => exact .inl (by rw [hphase]; rfl)
    | pinging | gettingEid | settingEid | allocatingEids =>
      obtain ⟨packet, t, hsender, htransport⟩ :=
        awaiting_of_stuck hp (by rw [hphase]; rfl) hstuck
      cases hp.custody t htransport with
      | away hnone => exact absurd hsender (hnone packet)
      | queued _ hqueue =>
        rw [Transport.requests, (hidle t htransport).1] at hqueue
        cases hqueue
      | pending hsender' _ htag hpending =>
        exact .inr ⟨_, _, t, htransport, hsender', htag, hpending⟩
  · rintro ⟨hidle, hawaits⟩ e he
    obtain ⟨htop, hsleeping, hhandOver, hresume⟩ :=
      @loop_of_awaitsNetwork cfg pingEid p hp hawaits
    cases e with
    | arrive | recvError => cases he
    | handOver => exact hhandOver
    | resume => exact hresume
    | turn =>
      rw [step, Option.map_eq_none_iff]
      by_contra hsome
      obtain ⟨loop, hloop⟩ := Option.ne_none_iff_exists'.mp hsome
      exact htop (goesOn_of_turn hloop).1
    | wake =>
      rw [step, Option.map_eq_none_iff]
      by_contra hsome
      obtain ⟨loop, hloop⟩ := Option.ne_none_iff_exists'.mp hsome
      exact hsleeping (goesOn_of_wake hloop).1
    | command =>
      rw [step, command]
      cases htransport : p.transport with
      | none => rfl
      | some t =>
        obtain ⟨hqueue, hsending⟩ := hidle t htransport
        simp only [hsending, BoundedChannel.recv_eq_none_iff.mpr hqueue, Option.isSome_none,
          Bool.false_eq_true, if_false]
    | transmit sendResult =>
      rw [step, transmit]
      cases htransport : p.transport with
      | none => rfl
      | some t => simp only [(hidle t htransport).2]

/-- There the program has nothing to do but to wait for the response. -/
theorem stuck_iff_sampleAwaiting :
    StepSystem.Run (step Session.sampleConfig 0) (fun _ _ => True) sampleInit
        (sampleExchange.take 7) sampleAwaiting ∧
      ∀ e, e.IsOwn → step Session.sampleConfig 0 sampleAwaiting e = none := by
  refine ⟨run_sampleAwaiting, (stuck_iff Session.sampleConfig 0 _ _ _ run_sampleAwaiting).mpr
    ⟨fun t ht => ?_, ?_⟩⟩
  · obtain rfl := Option.some.inj ht
    exact ⟨rfl, rfl⟩
  · exact .inr ⟨_, ⟨0, 0, 1, true⟩, _, rfl, rfl, by decide, rfl⟩

end Program

end BusOwner

end MctpEmu
