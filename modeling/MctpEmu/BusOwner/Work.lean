import MctpEmu.BusOwner.Deliveries
import MctpEmu.Library.Potential

/-!
# The work of the program

The program works until it waits for the network or for the clock. It never goes on for its own
sake: a datagram causes a few steps, the end of a sleep causes a few, and apart from these there is
only what the start of the loop brings.

## Main definitions

* `BusOwner.Program.Event.isWork`: a step of the loop, of its sender or of the transport task.
* `BusOwner.Program.work`: a bound on the steps that a state has ahead of it.

## Main results

* `BusOwner.Program.work_of_transition`: every step is paid.
* `BusOwner.Program.work_le`: the steps of a run, against its datagrams and its sleeps.
-/

namespace MctpEmu

namespace BusOwner

namespace Program

/-- A step of the loop, of its sender or of the transport task, without the network or the clock. -/
def Event.isWork : Event → Bool
  | .turn | .handOver | .resume | .command => true
  | .wake | .arrive _ | .recvError | .transmit _ => false

/-- The sleep of the loop ends. -/
def Event.isWake : Event → Bool
  | .wake => true
  | _ => false

/-- The steps that an event brings. -/
def Event.credit (e : Event) : ℕ := 6 * e.arrival.toList.length + 5 * e.isWake.toNat

/-- The steps that a command brings: a datagram may complete a request, so that the loop goes on. -/
def commandWork : PhysicalTransportCommands → ℕ
  | .receiveMsg _ => 6
  | .sendMsg _ _ => 1

/-- The steps that the commands in the channel bring. -/
def queueWork (transport : Option Transport) : ℕ :=
  transport.elim 0 fun t => (t.channel.queue.map commandWork).sum

/-- The steps that the loop and its sender have ahead of them until they wait. -/
def loopWork : Sender → Phase → ℕ
  | .idle, .top => 5
  | .idle, _ => 0
  | .handing _, _ => 4
  | .blocked _, _ => 3
  | .awaiting _ none, _ => 1
  | .awaiting _ (some _), _ => 6

/-- The steps that the program has ahead of it. -/
def work (p : Program) : ℕ := loopWork p.sender p.loop.phase + queueWork p.transport

section Steps

variable {cfg : TransportConfig} {pingEid : UInt8} {p p' : Program}

theorem queueWork_some (t : Transport) :
    queueWork (some t) = (t.channel.queue.map commandWork).sum := rfl

/-- A command at the end of the queue adds its steps. -/
theorem queueWork_concat {t : Transport} {channel : BoundedChannel PhysicalTransportCommands 32}
    {cmd : PhysicalTransportCommands} (h : channel.queue = t.channel.queue ++ [cmd]) :
    queueWork (some { t with channel }) = queueWork (some t) + commandWork cmd := by
  simp only [queueWork_some, h, List.map_append, List.sum_append, List.map_singleton,
    List.sum_singleton]

/-- A command that the transport task takes leaves the rest of the queue. -/
theorem Takes.queueWork_eq {t : Transport} {cmd : PhysicalTransportCommands}
    {channel : BoundedChannel PhysicalTransportCommands 32} (h : p.Takes t cmd channel)
    (pendingCmd : List (MsgFlowTag × ℕ)) (sending : Option Bytes) :
    queueWork p.transport = commandWork cmd + queueWork (some ⟨channel, pendingCmd, sending⟩) := by
  rw [h.transport, queueWork_some, queueWork_some, (BoundedChannel.recv_eq_some h.recv).1,
    List.map_cons, List.sum_cons]

/-- A loop that goes on has the steps of its sender or of its phase ahead of it. -/
theorem loopWork_goOn (p : Program) {loop : State} {e : BusOwner.Event}
    (he : ∀ bytes, e ≠ .handleRequest bytes)
    (hloop : BusOwner.step cfg.overflowChecks pingEid p.loop e = some loop) :
    loopWork (p.goOn loop).sender loop.phase =
      if loop.phase.awaits then 4 else loopWork .idle loop.phase := by
  rcases sender_goOn p he hloop with ⟨hawaits, hsender, -⟩ | ⟨hawaits, q, ctx, hsender, -⟩
  · rw [hsender, hawaits]
    rfl
  · rw [hsender, hawaits]
    rfl

theorem loopWork_goOn_le (p : Program) {loop : State} {e : BusOwner.Event}
    (he : ∀ bytes, e ≠ .handleRequest bytes)
    (hloop : BusOwner.step cfg.overflowChecks pingEid p.loop e = some loop) :
    loopWork (p.goOn loop).sender loop.phase ≤ 5 := by
  rw [loopWork_goOn p he hloop]
  cases loop.phase with
  | top => exact le_rfl
  | pinging | gettingEid | settingEid | allocatingEids => exact Nat.le_succ 4
  | sleeping | returned | panicked | overflowed => exact Nat.zero_le 5

/-- A turn is paid by the head of the loop that it leaves. -/
theorem loopWork_turn (hp : p.WellFormed) {loop : State}
    (hloop : BusOwner.step cfg.overflowChecks pingEid p.loop .turn = some loop) :
    1 + loopWork (p.goOn loop).sender loop.phase ≤ loopWork p.sender p.loop.phase := by
  obtain ⟨hphase, hs⟩ := goesOn_of_turn hloop
  rw [hp.sender_eq_idle (by rw [hphase]; rfl), hphase,
    loopWork_goOn p (fun _ => BusOwner.Event.noConfusion) hloop]
  split_ifs at hs
  · subst hs
    exact le_rfl
  · subst hs
    exact Nat.le_add_left 1 4

/-- A request that is given up leaves the loop nothing to do. -/
theorem loopWork_giveUp (p : Program) {loop : State} {d : Delivery}
    (hd : ∀ bytes, d ≠ .response bytes)
    (hloop : BusOwner.step cfg.overflowChecks pingEid p.loop (.deliver d) = some loop) :
    loopWork (p.goOn loop).sender loop.phase = 0 := by
  have hover := isOver_of_deliver hd hloop
  rw [loopWork_goOn p (fun _ => BusOwner.Event.noConfusion) hloop]
  cases hphase : loop.phase with
  | returned | panicked | overflowed => rfl
  | _ =>
    rw [hphase] at hover
    cases hover

/-- What the sender of the loop returns with is paid by what it waited for. -/
theorem loopWork_deliver {e : Event} {d : Delivery} {loop : State} (hdelivers : p.Delivers e d)
    (hloop : BusOwner.step cfg.overflowChecks pingEid p.loop (.deliver d) = some loop) :
    1 + loopWork (p.goOn loop).sender loop.phase ≤ loopWork p.sender p.loop.phase := by
  cases hdelivers with
  | unsent hsender =>
    rw [loopWork_giveUp p (fun _ => Delivery.noConfusion) hloop]
    rcases hsender with hsender | hsender <;> rw [hsender]
    · exact Nat.le_add_left 1 3
    · exact Nat.le_add_left 1 2
  | response hsender =>
    rw [hsender]
    exact Nat.add_le_add_left (loopWork_goOn_le p (fun _ => BusOwner.Event.noConfusion) hloop) 1
  | abandoned hsender =>
    rw [loopWork_giveUp p (fun _ => Delivery.noConfusion) hloop, hsender]
    exact le_rfl

/-- Every step is paid by what it brings and by what was ahead of the program. -/
theorem work_of_transition (hp : p.WellFormed) {e : Event}
    (h : Transition cfg pingEid p e p') : e.isWork.toNat + p'.work ≤ e.credit + p.work := by
  -- A command that is passed to the responder is paid by itself.
  have hcommand {t : Transport} {buf : Bytes}
      {channel : BoundedChannel PhysicalTransportCommands 32}
      (htakes : p.Takes t (.receiveMsg buf) channel) (pendingCmd : List (MsgFlowTag × ℕ))
      (sending : Option Bytes) :
      1 + queueWork (some ⟨channel, pendingCmd, sending⟩) ≤ queueWork p.transport := by
    rw [htakes.queueWork_eq pendingCmd sending, commandWork]
    omega
  simp only [work]
  cases h with
  | @turn loop hloop =>
    have hle := loopWork_turn hp hloop
    change 1 + (loopWork (p.goOn loop).sender loop.phase + queueWork p.transport) ≤ 0 + _
    omega
  | @wake loop hloop =>
    have hle := loopWork_goOn_le p (fun _ => BusOwner.Event.noConfusion) hloop
    change 0 + (loopWork (p.goOn loop).sender loop.phase + queueWork p.transport) ≤ 5 + _
    omega
  | @deliver e d loop hdelivers hloop =>
    have hle := loopWork_deliver hdelivers hloop
    have hevent : e.isWork.toNat = 1 := by cases hdelivers <;> rfl
    rw [hevent]
    change 1 + (loopWork (p.goOn loop).sender loop.phase + queueWork p.transport) ≤ _
    omega
  | enqueue hsender htransport hqueue =>
    rw [queueWork_concat hqueue, htransport]
    change 1 + (1 + (_ + 1)) ≤ 0 + _
    rcases hsender with hsender | hsender
    · rw [hsender, loopWork]
      omega
    · rw [hsender, loopWork]
      omega
  | block hsender htransport hqueue =>
    rw [queueWork_some, hqueue, htransport, hsender, queueWork_some]
    change 1 + (3 + _) ≤ 0 + (4 + _)
    omega
  | @accept buf t channel hreceiving hbuf htransport hroom hqueue =>
    have hcredit : Event.credit (.arrive buf) = 6 := by
      rw [Event.credit, Event.arrival, if_neg hbuf]
      rfl
    rw [queueWork_concat hqueue, htransport, hcredit]
    change 0 + (loopWork p.sender p.loop.phase + (_ + 6)) ≤ 6 + _
    omega
  | ignore | recvError => exact le_rfl
  | overrun => exact Nat.add_le_add_right (Nat.zero_le _) _
  | @skip buf t channel htakes =>
    have hle := hcommand htakes t.pendingCmd none
    dsimp only [Event.isWork, Bool.toNat_true]
    omega
  | complete htakes hframe hsender =>
    rw [htakes.queueWork_eq [] none, hsender]
    dsimp only [Event.isWork, Bool.toNat_true, loopWork, commandWork]
    omega
  | @refuse buf t channel htakes =>
    have hle := hcommand htakes t.pendingCmd none
    dsimp only [Event.isWork, Bool.toNat_true, respond]
    omega
  | @reply buf reply frame t channel htakes =>
    have hle := hcommand htakes t.pendingCmd (some frame)
    dsimp only [Event.isWork, Bool.toNat_true, respond]
    omega
  | crash htakes =>
    have hle := hcommand htakes [] none
    dsimp only [Event.isWork, Bool.toNat_true, respond, queueWork, Option.elim_none] at hle ⊢
    omega
  | @register packet frame tag t channel htakes hsender =>
    rw [htakes.queueWork_eq [(tag, p.returned)] (some frame), hsender]
    dsimp only [Event.isWork, Bool.toNat_true, loopWork, commandWork]
    omega
  | transmit htransport =>
    rw [htransport]
    exact Nat.add_le_add_right (Nat.zero_le _) _
  | abort => exact Nat.add_le_add (Nat.zero_le _) (Nat.add_le_add_left (Nat.zero_le _) _)

end Steps

theorem sum_credit (es : List Event) :
    (es.map Event.credit).sum = 6 * (arrivals es).length + 5 * es.countP Event.isWake := by
  induction es with
  | nil => rfl
  | cons e es ih =>
    have harrivals : (arrivals (e :: es)).length =
        e.arrival.toList.length + (arrivals es).length := by
      rw [arrivals, List.filterMap_cons]
      cases e.arrival with
      | none => exact (Nat.zero_add _).symm
      | some => exact Nat.add_comm _ 1
    have hwakes : (e :: es).countP Event.isWake = e.isWake.toNat + es.countP Event.isWake := by
      rw [List.countP_cons, Nat.add_comm]
      cases e.isWake <;> rfl
    rw [List.map_cons, List.sum_cons, ih, harrivals, hwakes, Event.credit]
    omega

end Program

end BusOwner

end MctpEmu
