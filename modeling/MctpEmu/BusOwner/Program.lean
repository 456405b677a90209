import MctpEmu.BusOwner.Conversation
import MctpEmu.BusOwner.Datagrams
import MctpEmu.Library.BoundedChannel

/-!
# The program of a bus owner

`main` of `examples/basic_bus_owner_loop.rs` runs the loop beside two tasks. The receive task puts
every datagram of the socket into a channel with 32 slots, which it never waits for; the transport
task takes the commands out of this channel one by one. A sender of the loop waits for a slot of the
channel, and then for the response to its packet.

A task that panics is gone for good. The channel closes with the transport task, and what was in it
or waited for a response is dropped. The end of the loop ends the process, and with it the tasks at
some later point; what they do until then are steps of the program as well.

Three logs that no step reads record the commands that were put into the channel, the commands that
were taken out of it, and the frames that the socket has taken.

## Main definitions

* `BusOwner.PhysicalTransportCommands`, `BusOwner.Transport`, `BusOwner.Sender`,
  `BusOwner.Program`, `BusOwner.Program.Event`.
* `BusOwner.Program.step`: one step of the loop, of a task, of the socket or of the network.
* `BusOwner.Program.Custody`: where the request is that the loop waits for.
* `BusOwner.Program.WellFormed`: the invariant of all runs.
* `BusOwner.Program.Transition`: what a step does, case by case.

## Main results

* `BusOwner.Program.transition_of_step`: every step is one of the transitions.
-/

namespace MctpEmu

namespace BusOwner

/-! ### State -/

/-- The commands of the transport task, where the channel of a response is known by its number. -/
inductive PhysicalTransportCommands
  | receiveMsg (buf : Bytes)
  | sendMsg (buf : Bytes) (resp : Option ℕ)
deriving DecidableEq, Repr

namespace PhysicalTransportCommands

/-- The packet of a request, with its channel. -/
def request : PhysicalTransportCommands → Option (Bytes × Option ℕ)
  | receiveMsg _ => none
  | sendMsg buf resp => some (buf, resp)

/-- The datagram that has arrived. -/
def datagram : PhysicalTransportCommands → Option Bytes
  | receiveMsg buf => some buf
  | sendMsg _ _ => none

end PhysicalTransportCommands

/-- The transport task while it runs: the channel that it takes its commands from, the commands that
wait for a response, and the frame that it waits with for the socket. -/
structure Transport where
  channel : BoundedChannel PhysicalTransportCommands 32
  pendingCmd : List (MsgFlowTag × ℕ)
  sending : Option Bytes
deriving DecidableEq, Repr

/-- The packets of the requests in the channel. -/
def Transport.requests (t : Transport) : List (Bytes × Option ℕ) :=
  t.channel.queue.filterMap PhysicalTransportCommands.request

/-- The task has the sender of a one-shot channel. -/
def Transport.holds (t : Transport) (channel : ℕ) : Bool :=
  t.requests.any (fun request => request.2 = some channel) ||
    t.pendingCmd.any fun flow => flow.2 = channel

/-- Where `send_and_decode` stands with its packet. -/
inductive Sender
  | idle
  | handing (packet : Bytes)
  /-- The channel is full, and the sender waits for a slot. -/
  | blocked (packet : Bytes)
  | awaiting (packet : Bytes) (reply : Option Bytes)
deriving DecidableEq, Repr

namespace Sender

def packet : Sender → Option Bytes
  | idle => none
  | handing packet | blocked packet | awaiting packet _ => some packet

/-- How many senders wait for a slot of the channel. -/
def waiting : Sender → ℕ
  | blocked _ => 1
  | _ => 0

/-- A response is put into the one-shot channel. -/
def answer (bytes : Bytes) : Sender → Sender
  | awaiting packet _ => awaiting packet (some bytes)
  | sender => sender

end Sender

/-- The loop with its sender, the two tasks, and the logs. The one-shot channel of a request has the
number of requests that have returned before it. -/
structure Program where
  loop : State
  sender : Sender
  returned : ℕ
  transport : Option Transport
  receiving : Bool
  accepted : List PhysicalTransportCommands
  handled : List PhysicalTransportCommands
  sent : List Bytes
deriving DecidableEq, Repr

namespace Program

inductive Event
  /-- The head of the loop. -/
  | turn
  /-- The sleep of five seconds ends. -/
  | wake
  /-- The sender of the loop tries to hand its packet over. -/
  | handOver
  /-- The sender of the loop goes on after the response. -/
  | resume
  /-- A datagram arrives at the socket. -/
  | arrive (buf : Bytes)
  /-- The socket fails to receive. -/
  | recvError
  /-- The transport task takes a command. -/
  | command
  /-- The socket is done with the frame of the transport task. -/
  | transmit (sendResult : Except IoError ℕ)

/-! ### Steps -/

/-- The loop stands where it rests, or where it asks with the last packet of its history. -/
def goOn (p : Program) (loop : State) : Program :=
  let sender := match loop.phase.awaits, loop.history.getLast? with
    | true, some (.request packet) => .handing packet
    | _, _ => .idle
  { p with loop, sender }

section Steps

variable (cfg : TransportConfig) (pingEid : UInt8) (p : Program)

/-- The sender of the loop returns. -/
def deliver (d : Delivery) : Option Program :=
  (BusOwner.step cfg.overflowChecks pingEid p.loop (.deliver d)).map fun loop =>
    { p.goOn loop with returned := p.returned + 1 }

/-- `tx_cn.send`: the command goes into the channel when there is a slot for it. -/
def handOver : Option Program :=
  match p.sender, p.transport with
  | .handing _, none | .blocked _, none => p.deliver cfg pingEid .unsent
  | .handing packet, some t =>
    let cmd := .sendMsg packet (some p.returned)
    match t.channel.trySend cmd with
    | some channel => some { p with
        sender := .awaiting packet none
        transport := some { t with channel }
        accepted := p.accepted ++ [cmd] }
    | none => t.channel.wait.map fun channel =>
        { p with sender := .blocked packet, transport := some { t with channel } }
  | .blocked packet, some t =>
    let cmd := .sendMsg packet (some p.returned)
    (t.channel.fill cmd).map fun channel => { p with
      sender := .awaiting packet none
      transport := some { t with channel }
      accepted := p.accepted ++ [cmd] }
  | _, _ => none

/-- `resp_rx.await`: the channel is closed when nobody has its sender. -/
def resume : Option Program :=
  match p.sender with
  | .awaiting _ (some bytes) => p.deliver cfg pingEid (.response bytes)
  | .awaiting _ none =>
    if p.transport.any (fun t => t.holds p.returned) then none
    else p.deliver cfg pingEid .abandoned
  | _ => none

/-- The receive task: a datagram is cut to its buffer, an empty one is ignored, and the result of
`try_send` is unwrapped. -/
def arrive (buf : Bytes) : Option Program :=
  if p.receiving then
    let bufRequest := buf.take 4096
    if bufRequest.length ≠ 0 then
      match p.transport with
      | none => some { p with receiving := false }
      | some t =>
        let cmd := .receiveMsg bufRequest
        match t.channel.trySend cmd with
        | none => some { p with receiving := false }
        | some channel => some { p with
            transport := some { t with channel }, accepted := p.accepted ++ [cmd] }
    else some p
  else none

/-- The receiver of a one-shot channel lives as long as its sender has not returned. -/
def isOpen (channel : ℕ) : Bool := p.sender.packet.isSome ∧ channel = p.returned

/-- The transport task after a command, up to the transmission of its frame. -/
def afterCommand (channel : BoundedChannel PhysicalTransportCommands 32)
    (result : TaskResult × TransportTask) : Program :=
  let p := { p with loop := { p.loop with ctx := result.2.ctx } }
  let transport : Transport := ⟨channel, result.2.pendingCmd, none⟩
  match result.1 with
  | .skipped | .refused _ => { p with transport := some transport }
  | .completed _ bytes => { p with transport := some transport, sender := p.sender.answer bytes }
  | .sent frame => { p with transport := some { transport with sending := some frame } }
  | .panicked _ => { p with transport := none }

/-- The transport task takes the oldest command. What the socket says to a frame is a step of its
own, and the number of bytes that it reports is only printed. -/
def command : Option Program :=
  match p.transport with
  | none => none
  | some t =>
    if t.sending.isSome then none
    else
      match t.channel.recv with
      | none => none
      | some (cmd, channel) =>
        let task : TransportTask := ⟨p.loop.ctx, t.pendingCmd⟩
        let result := match cmd with
          | .receiveMsg buf => TransportTask.receiveMsg cfg p.isOpen task buf (.ok 0)
          | .sendMsg buf resp => TransportTask.sendCmd cfg task buf resp (.ok 0)
        some ({ p with handled := p.handled ++ [cmd] }.afterCommand channel result)

/-- The socket takes the frame, or the transport task panics. -/
def transmit (sendResult : Except IoError ℕ) : Option Program :=
  match p.transport with
  | none => none
  | some t =>
    match t.sending with
    | none => none
    | some frame =>
      match sendResult with
      | .ok _ => some { p with
          transport := some { t with sending := none }, sent := p.sent ++ [frame] }
      | .error _ => some { p with transport := none }

/-- One step of the program. -/
def step : Event → Option Program
  | .turn => (BusOwner.step cfg.overflowChecks pingEid p.loop .turn).map p.goOn
  | .wake => (BusOwner.step cfg.overflowChecks pingEid p.loop .wake).map p.goOn
  | .handOver => p.handOver cfg pingEid
  | .resume => p.resume cfg pingEid
  | .arrive buf => p.arrive buf
  | .recvError => if p.receiving then some { p with receiving := false } else none
  | .command => p.command cfg
  | .transmit sendResult => p.transmit sendResult

end Steps

/-- The start of the program. -/
def init (ctx : MctpEndpointContext) : Program where
  loop := BusOwner.init ctx
  sender := .idle
  returned := 0
  transport := some ⟨.empty _ 32, [], none⟩
  receiving := true
  accepted := []
  handled := []
  sent := []

/-! ### The invariant -/

/-- Where the request is that the loop waits for: not with the transport task, in the channel, or
among the pending commands. -/
inductive Custody (sender : Sender) (returned : ℕ) (t : Transport) : Prop
  | away (hsender : ∀ packet, sender ≠ .awaiting packet none) (hqueue : t.requests = [])
      (hpending : t.pendingCmd = [])
  | queued {packet : Bytes} (hsender : sender = .awaiting packet none)
      (hqueue : t.requests = [(packet, some returned)]) (hpending : t.pendingCmd = [])
  | pending {packet : Bytes} {tag : MsgFlowTag} (hsender : sender = .awaiting packet none)
      (hqueue : t.requests = []) (htag : createTag packet = some tag)
      (hpending : t.pendingCmd = [(tag, returned)])

/-- The sender has a packet of the right size exactly while the loop waits, the transport task has
its request or nothing, and the sender is the only one that waits for a slot. -/
structure WellFormed (p : Program) : Prop where
  packet_isSome : p.sender.packet.isSome = p.loop.phase.awaits
  isPacketSize : ∀ packet, p.sender.packet = some packet → IsPacketSize packet.length
  custody : ∀ t, p.transport = some t → Custody p.sender p.returned t
  waiting : ∀ t, p.transport = some t →
    t.channel.reserved + t.channel.waiting = p.sender.waiting

/-! ### Transitions -/

/-- What the sender of the loop returns with. -/
inductive Delivers (p : Program) : Event → Delivery → Prop
  | unsent {packet : Bytes} (hsender : p.sender = .handing packet ∨ p.sender = .blocked packet)
      (htransport : p.transport = none) : Delivers p .handOver .unsent
  | response {packet bytes : Bytes} (hsender : p.sender = .awaiting packet (some bytes)) :
      Delivers p .resume (.response bytes)
  | abandoned {packet : Bytes} (hsender : p.sender = .awaiting packet none)
      (htransport : p.transport = none) : Delivers p .resume .abandoned

/-- The task of a transport that is about to take a command. -/
def task (p : Program) (t : Transport) : TransportTask := ⟨p.loop.ctx, t.pendingCmd⟩

/-- The loop after the responder has handled a packet. -/
def respond (p : Program) (packet : Bytes) : State :=
  { p.loop with ctx := (p.loop.ctx.handleRequest packet).2 }

/-- A packet that the responder is given: it comes with a frame and completes no command. -/
def ToResponder (p : Program) (t : Transport) (buf : Bytes) : Prop :=
  IsFrame buf ∧ (p.task t).firstPending (buf.drop 4) = none

instance (p : Program) (t : Transport) : DecidablePred (p.ToResponder t) :=
  fun _ => inferInstanceAs (Decidable (_ ∧ _))

/-- The transport task is about to take a command. -/
structure Takes (p : Program) (t : Transport) (cmd : PhysicalTransportCommands)
    (channel : BoundedChannel PhysicalTransportCommands 32) : Prop where
  transport : p.transport = some t
  sending : t.sending = none
  recv : t.channel.recv = some (cmd, channel)

/-- What a step does. -/
inductive Transition (cfg : TransportConfig) (pingEid : UInt8) (p : Program) :
    Event → Program → Prop
  | turn {loop : State}
      (hloop : BusOwner.step cfg.overflowChecks pingEid p.loop .turn = some loop) :
      Transition cfg pingEid p .turn (p.goOn loop)
  | wake {loop : State}
      (hloop : BusOwner.step cfg.overflowChecks pingEid p.loop .wake = some loop) :
      Transition cfg pingEid p .wake (p.goOn loop)
  | deliver {e : Event} {d : Delivery} {loop : State} (hdelivers : p.Delivers e d)
      (hloop : BusOwner.step cfg.overflowChecks pingEid p.loop (.deliver d) = some loop) :
      Transition cfg pingEid p e { p.goOn loop with returned := p.returned + 1 }
  | enqueue {packet : Bytes} {t : Transport}
      {channel : BoundedChannel PhysicalTransportCommands 32}
      (hsender : p.sender = .handing packet ∨ p.sender = .blocked packet)
      (htransport : p.transport = some t)
      (hqueue : channel.queue = t.channel.queue ++ [.sendMsg packet (some p.returned)])
      (hwaiting : channel.reserved + channel.waiting = 0) :
      Transition cfg pingEid p .handOver { p with
        sender := .awaiting packet none
        transport := some { t with channel }
        accepted := p.accepted ++ [.sendMsg packet (some p.returned)] }
  | block {packet : Bytes} {t : Transport}
      {channel : BoundedChannel PhysicalTransportCommands 32} (hsender : p.sender = .handing packet)
      (htransport : p.transport = some t) (hqueue : channel.queue = t.channel.queue)
      (hwaiting : channel.reserved + channel.waiting = 1) :
      Transition cfg pingEid p .handOver
        { p with sender := .blocked packet, transport := some { t with channel } }
  | accept {buf : Bytes} {t : Transport}
      {channel : BoundedChannel PhysicalTransportCommands 32} (hreceiving : p.receiving = true)
      (hbuf : buf ≠ []) (htransport : p.transport = some t) (hroom : t.channel.HasRoom)
      (hqueue : channel.queue = t.channel.queue ++ [.receiveMsg (buf.take 4096)])
      (hwaiting : channel.reserved + channel.waiting = t.channel.reserved + t.channel.waiting) :
      Transition cfg pingEid p (.arrive buf) { p with
        transport := some { t with channel }
        accepted := p.accepted ++ [.receiveMsg (buf.take 4096)] }
  | ignore (hreceiving : p.receiving = true) : Transition cfg pingEid p (.arrive []) p
  | overrun {buf : Bytes} (hreceiving : p.receiving = true) (hbuf : buf ≠ [])
      (hroom : ∀ t, p.transport = some t → ¬ t.channel.HasRoom) :
      Transition cfg pingEid p (.arrive buf) { p with receiving := false }
  | recvError (hreceiving : p.receiving = true) :
      Transition cfg pingEid p .recvError { p with receiving := false }
  | skip {buf : Bytes} {t : Transport} {channel : BoundedChannel PhysicalTransportCommands 32}
      (htakes : p.Takes t (.receiveMsg buf) channel) (hframe : ¬ IsFrame buf) :
      Transition cfg pingEid p .command { p with
        transport := some ⟨channel, t.pendingCmd, none⟩
        handled := p.handled ++ [.receiveMsg buf] }
  | complete {buf packet : Bytes} {tag recvTag : MsgFlowTag} {t : Transport}
      {channel : BoundedChannel PhysicalTransportCommands 32}
      (htakes : p.Takes t (.receiveMsg buf) channel) (hframe : IsFrame buf)
      (hsender : p.sender = .awaiting packet none) (htag : createTag packet = some tag)
      (hpending : t.pendingCmd = [(tag, p.returned)])
      (hrecvTag : createTag (buf.drop 4) = some recvTag)
      (hmatches : SimpleNetwork.matchesFlow recvTag (tag, p.returned) = true) :
      Transition cfg pingEid p .command { p with
        sender := .awaiting packet (some (buf.drop 4))
        transport := some ⟨channel, [], none⟩
        handled := p.handled ++ [.receiveMsg buf] }
  | refuse {buf : Bytes} {t : Transport} {channel : BoundedChannel PhysicalTransportCommands 32}
      (htakes : p.Takes t (.receiveMsg buf) channel) (hresponder : p.ToResponder t buf)
      (hrefused : MctpEndpointContext.IsRefused (buf.drop 4)) :
      Transition cfg pingEid p .command { p with
        loop := p.respond (buf.drop 4)
        transport := some ⟨channel, t.pendingCmd, none⟩
        handled := p.handled ++ [.receiveMsg buf] }
  | reply {buf reply frame : Bytes} {t : Transport}
      {channel : BoundedChannel PhysicalTransportCommands 32}
      (htakes : p.Takes t (.receiveMsg buf) channel) (hresponder : p.ToResponder t buf)
      (hreply : (p.loop.ctx.handleRequest (buf.drop 4)).1 = .ok reply)
      (hframe : sendFrame cfg.overflowChecks cfg.pec cfg.destAddr7bit cfg.srcAddr7bit reply =
        some frame) :
      Transition cfg pingEid p .command { p with
        loop := p.respond (buf.drop 4)
        transport := some ⟨channel, t.pendingCmd, some frame⟩
        handled := p.handled ++ [.receiveMsg buf] }
  | crash {buf : Bytes} {t : Transport} {channel : BoundedChannel PhysicalTransportCommands 32}
      (htakes : p.Takes t (.receiveMsg buf) channel) (hresponder : p.ToResponder t buf)
      {c : UInt8} (hc : (buf.drop 4)[6]? = some c) (hundefined : ¬ c ≤ 0x14) :
      Transition cfg pingEid p .command { p with
        loop := p.respond (buf.drop 4), transport := none
        handled := p.handled ++ [.receiveMsg buf] }
  | register {packet frame : Bytes} {tag : MsgFlowTag} {t : Transport}
      {channel : BoundedChannel PhysicalTransportCommands 32}
      (htakes : p.Takes t (.sendMsg packet (some p.returned)) channel)
      (hsender : p.sender = .awaiting packet none) (htag : createTag packet = some tag)
      (hframe : sendFrame cfg.overflowChecks cfg.pec cfg.destAddr7bit cfg.srcAddr7bit packet =
        some frame) :
      Transition cfg pingEid p .command { p with
        transport := some ⟨channel, [(tag, p.returned)], some frame⟩
        handled := p.handled ++ [.sendMsg packet (some p.returned)] }
  | transmit {frame : Bytes} {t : Transport} (htransport : p.transport = some t)
      (hsending : t.sending = some frame) (n : ℕ) :
      Transition cfg pingEid p (.transmit (.ok n)) { p with
        transport := some { t with sending := none }, sent := p.sent ++ [frame] }
  | abort {frame : Bytes} {t : Transport} (htransport : p.transport = some t)
      (hsending : t.sending = some frame) (e : IoError) :
      Transition cfg pingEid p (.transmit (.error e)) { p with transport := none }

section Inversion

variable {cfg : TransportConfig} {pingEid : UInt8} {p p' : Program}

theorem transition_of_handOver (hp : p.WellFormed)
    (h : step cfg pingEid p .handOver = some p') : Transition cfg pingEid p .handOver p' := by
  have hwaiting := hp.waiting
  rw [step, handOver] at h
  cases htransport : p.transport with
  | none =>
    cases hsender : p.sender with
    | handing packet =>
      simp only [hsender, htransport, deliver] at h
      obtain ⟨loop, hloop, rfl⟩ := Option.map_eq_some_iff.mp h
      exact .deliver (.unsent (.inl hsender) htransport) hloop
    | blocked packet =>
      simp only [hsender, htransport, deliver] at h
      obtain ⟨loop, hloop, rfl⟩ := Option.map_eq_some_iff.mp h
      exact .deliver (.unsent (.inr hsender) htransport) hloop
    | idle | awaiting =>
      simp only [hsender, htransport] at h
      cases h
  | some t =>
    have hwait := hwaiting t htransport
    cases hsender : p.sender with
    | handing packet =>
      simp only [hsender, Sender.waiting] at hwait
      simp only [hsender, htransport] at h
      cases hsend : t.channel.trySend (.sendMsg packet (some p.returned)) with
      | some channel =>
        obtain ⟨-, hqueue, hreserved, hwaiting⟩ := BoundedChannel.trySend_eq_some hsend
        simp only [hsend, Option.some.injEq] at h
        subst h
        exact .enqueue (.inl hsender) htransport hqueue (by omega)
      | none =>
        simp only [hsend] at h
        obtain ⟨channel, hchannel, rfl⟩ := Option.map_eq_some_iff.mp h
        obtain ⟨-, hqueue, hreserved, hwaiting⟩ := BoundedChannel.wait_eq_some hchannel
        exact .block hsender htransport hqueue (by omega)
    | blocked packet =>
      simp only [hsender, Sender.waiting] at hwait
      simp only [hsender, htransport] at h
      obtain ⟨channel, hchannel, rfl⟩ := Option.map_eq_some_iff.mp h
      obtain ⟨hqueue, hreserved, hwaiting⟩ := BoundedChannel.fill_eq_some hchannel
      exact .enqueue (.inr hsender) htransport hqueue (by omega)
    | idle | awaiting =>
      simp only [hsender, htransport] at h
      cases h

/-- A transport task has the one-shot channel of the request that the loop waits for. -/
theorem Custody.holds {t : Transport} {packet : Bytes} (h : Custody p.sender p.returned t)
    (hsender : p.sender = .awaiting packet none) : t.holds p.returned = true := by
  rw [Transport.holds, Bool.or_eq_true]
  cases h with
  | away haway => exact absurd hsender (haway packet)
  | queued _ hqueue => exact .inl (by simp [hqueue])
  | pending _ _ _ hpending => exact .inr (by simp [hpending])

theorem transition_of_resume (hp : p.WellFormed)
    (h : step cfg pingEid p .resume = some p') : Transition cfg pingEid p .resume p' := by
  rw [step, resume] at h
  cases hsender : p.sender with
  | idle | handing | blocked =>
    simp only [hsender] at h
    cases h
  | awaiting packet reply =>
    cases reply with
    | some bytes =>
      simp only [hsender, deliver] at h
      obtain ⟨loop, hloop, rfl⟩ := Option.map_eq_some_iff.mp h
      exact .deliver (.response hsender) hloop
    | none =>
      simp only [hsender, deliver] at h
      split_ifs at h with hholds
      obtain ⟨loop, hloop, rfl⟩ := Option.map_eq_some_iff.mp h
      refine .deliver (.abandoned hsender ?_) hloop
      cases htransport : p.transport with
      | none => rfl
      | some t =>
        rw [htransport, Option.any_some] at hholds
        exact absurd ((hp.custody t htransport).holds hsender) hholds

theorem transition_of_arrive {buf : Bytes} (h : step cfg pingEid p (.arrive buf) = some p') :
    Transition cfg pingEid p (.arrive buf) p' := by
  rw [step, arrive] at h
  split_ifs at h with hreceiving
  simp only at h
  by_cases hbuf : buf = []
  · subst hbuf
    obtain rfl := Option.some.inj h
    exact .ignore hreceiving
  · have hlen : (buf.take 4096).length ≠ 0 := by
      rw [List.length_take]
      have hpos := List.length_pos_iff.mpr hbuf
      omega
    rw [if_pos hlen] at h
    cases htransport : p.transport with
    | none =>
      simp only [htransport, Option.some.injEq] at h
      obtain rfl : p' = { p with receiving := false } := by rw [← h, htransport]
      refine .overrun hreceiving hbuf fun t ht => ?_
      rw [htransport] at ht
      cases ht
    | some t =>
      simp only [htransport] at h
      cases hsend : t.channel.trySend (.receiveMsg (buf.take 4096)) with
      | none =>
        simp only [hsend, Option.some.injEq] at h
        obtain rfl : p' = { p with receiving := false } := by rw [← h, htransport]
        refine .overrun hreceiving hbuf fun t' ht => ?_
        obtain rfl := Option.some.inj (htransport.symm.trans ht)
        exact BoundedChannel.trySend_eq_none_iff.mp hsend
      | some channel =>
        obtain ⟨hroom, hqueue, hreserved, hwaiting⟩ := BoundedChannel.trySend_eq_some hsend
        simp only [hsend, Option.some.injEq] at h
        subst h
        exact .accept hreceiving hbuf htransport hroom hqueue (by rw [hreserved, hwaiting])

theorem transition_of_transmit {sendResult : Except IoError ℕ}
    (h : step cfg pingEid p (.transmit sendResult) = some p') :
    Transition cfg pingEid p (.transmit sendResult) p' := by
  rw [step, transmit] at h
  cases htransport : p.transport with
  | none =>
    rw [htransport] at h
    cases h
  | some t =>
    simp only [htransport] at h
    cases hsending : t.sending with
    | none =>
      rw [hsending] at h
      cases h
    | some frame =>
      simp only [hsending] at h
      cases sendResult with
      | ok n =>
        obtain rfl := Option.some.inj h
        exact .transmit htransport hsending n
      | error e =>
        obtain rfl := Option.some.inj h
        exact .abort htransport hsending e

/-- The packet that was given to the send closure is in the frame that the socket gets. -/
theorem transmitFrame_ok {packet frame : Bytes}
    (h : sendFrame cfg.overflowChecks cfg.pec cfg.destAddr7bit cfg.srcAddr7bit packet =
      some frame) (n : ℕ) : TransportTask.transmitFrame cfg packet (.ok n) = .sent frame := by
  rw [TransportTask.transmitFrame, h]

/-- A datagram that the transport task takes. -/
theorem transition_of_receiveMsg (hp : p.WellFormed) {t : Transport} {buf : Bytes}
    {channel : BoundedChannel PhysicalTransportCommands 32}
    (htakes : p.Takes t (.receiveMsg buf) channel)
    (h : p' = afterCommand
      { p with handled := p.handled ++ [PhysicalTransportCommands.receiveMsg buf] } channel
      (TransportTask.receiveMsg cfg p.isOpen (p.task t) buf (.ok 0))) :
    Transition cfg pingEid p .command p' := by
  by_cases hframe : IsFrame buf
  swap
  · rw [TransportTask.receiveMsg_of_not_isFrame cfg p.isOpen (p.task t) (.ok 0) hframe] at h
    exact h ▸ .skip htakes hframe
  cases hpending : (p.task t).firstPending (buf.drop 4) with
  | some flow =>
    obtain ⟨recvTag, hrecvTag, hfind, hreceive⟩ :=
      (p.task t).receiveMsg_of_some cfg p.isOpen (.ok 0) hframe hpending
    rw [hreceive] at h
    cases hp.custody t htakes.transport with
    | away _ _ hnil | queued _ _ hnil =>
      rw [task, hnil, List.find?_nil] at hfind
      cases hfind
    | @pending packet tag hsender _ htag hlist =>
      rw [task, hlist] at hfind h
      have hmatches := List.find?_some hfind
      obtain rfl := List.mem_singleton.mp (List.mem_of_find?_eq_some hfind)
      have hopen : p.isOpen p.returned = true := by
        rw [isOpen, hsender]
        simp [Sender.packet]
      rw [if_pos hopen, List.eraseP_cons_of_pos hmatches, afterCommand] at h
      simp only [hsender, Sender.answer] at h
      exact h ▸ .complete htakes hframe hsender htag hlist hrecvTag hmatches
  | none =>
    have hresponder : p.ToResponder t buf := ⟨hframe, hpending⟩
    have hctx : (p.loop.ctx.handleRequest (buf.drop 4)).2 = (p.respond (buf.drop 4)).ctx := rfl
    rw [(p.task t).receiveMsg_of_none cfg p.isOpen (.ok 0) hframe hpending, task] at h
    have herr := p.loop.ctx.handleRequest_err_iff (buf.drop 4)
    have hpanic := p.loop.ctx.handleRequest_panic_iff (buf.drop 4)
    rcases hres : p.loop.ctx.handleRequest (buf.drop 4) with ⟨reply | e | message, ctx⟩
    all_goals
      rw [hres] at hctx herr hpanic
      subst hctx
      simp only [hres] at h
    · have hreply : (p.loop.ctx.handleRequest (buf.drop 4)).1 = .ok reply := by rw [hres]
      obtain ⟨frame, hsend, -⟩ := exists_sendFrame cfg.overflowChecks cfg.pec cfg.destAddr7bit
        cfg.srcAddr7bit (MctpEndpointContext.isPacketSize_handleRequest hreply)
      simp only [transmitFrame_ok hsend, afterCommand] at h
      exact h ▸ .reply htakes hresponder hreply hsend
    · exact h ▸ .refuse htakes hresponder (herr.mp ⟨e, rfl⟩)
    · obtain ⟨c, hc, hundefined⟩ := hpanic.mp ⟨message, rfl⟩
      exact h ▸ .crash htakes hresponder hc hundefined

/-- A request that the transport task takes is the one that the loop waits for. -/
theorem transition_of_sendMsg (hp : p.WellFormed) {t : Transport} {buf : Bytes} {resp : Option ℕ}
    {channel : BoundedChannel PhysicalTransportCommands 32}
    (htakes : p.Takes t (.sendMsg buf resp) channel)
    (h : p' = afterCommand
      { p with handled := p.handled ++ [PhysicalTransportCommands.sendMsg buf resp] } channel
      (TransportTask.sendCmd cfg (p.task t) buf resp (.ok 0))) :
    Transition cfg pingEid p .command p' := by
  obtain ⟨hqueue, -⟩ := BoundedChannel.recv_eq_some htakes.recv
  have hrequests : t.requests =
      (buf, resp) :: channel.queue.filterMap PhysicalTransportCommands.request := by
    rw [Transport.requests, hqueue]
    rfl
  cases hp.custody t htakes.transport with
  | away _ hnil | pending _ hnil =>
    rw [hnil] at hrequests
    cases hrequests
  | @queued packet hsender hlist hnil =>
    rw [hlist] at hrequests
    obtain ⟨rfl, rfl⟩ := Prod.mk.inj (List.cons.inj hrequests).1
    obtain ⟨tag, htag⟩ := exists_createTag packet
    obtain ⟨frame, hsend, -⟩ := exists_sendFrame cfg.overflowChecks cfg.pec cfg.destAddr7bit
      cfg.srcAddr7bit (hp.isPacketSize packet (by rw [hsender]; rfl))
    rw [TransportTask.sendCmd] at h
    simp only [htag, transmitFrame_ok hsend, task, hnil, List.nil_append] at h
    exact h ▸ .register htakes hsender htag hsend

/-- Every step from a state of a run is one of the transitions. -/
theorem transition_of_step (hp : p.WellFormed) {e : Event} (h : step cfg pingEid p e = some p') :
    Transition cfg pingEid p e p' := by
  cases e with
  | turn =>
    obtain ⟨loop, hloop, rfl⟩ := Option.map_eq_some_iff.mp h
    exact .turn hloop
  | wake =>
    obtain ⟨loop, hloop, rfl⟩ := Option.map_eq_some_iff.mp h
    exact .wake hloop
  | handOver => exact transition_of_handOver hp h
  | resume => exact transition_of_resume hp h
  | arrive buf => exact transition_of_arrive h
  | recvError =>
    rw [step] at h
    split_ifs at h with hreceiving
    exact Option.some.inj h ▸ .recvError hreceiving
  | command =>
    rw [step, command] at h
    cases htransport : p.transport with
    | none =>
      rw [htransport] at h
      cases h
    | some t =>
      simp only [htransport] at h
      split_ifs at h with hsending
      cases hrecv : t.channel.recv with
      | none =>
        rw [hrecv] at h
        cases h
      | some r =>
        obtain ⟨cmd, channel⟩ := r
        have htakes : p.Takes t cmd channel := ⟨htransport, by simpa using hsending, hrecv⟩
        simp only [hrecv, Option.some.injEq] at h
        cases cmd with
        | receiveMsg buf =>
          exact transition_of_receiveMsg hp htakes (by rw [← h, ← htransport]; rfl)
        | sendMsg buf resp =>
          exact transition_of_sendMsg hp htakes (by rw [← h, ← htransport]; rfl)
  | transmit sendResult => exact transition_of_transmit h

end Inversion

end Program

end BusOwner

end MctpEmu
