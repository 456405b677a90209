import Mathlib.Algebra.Order.Group.Multiset
import Mathlib.Tactic.Abel
import MctpEmu.Library.BoundedChannel
import MctpEmu.Network.Replies
import MctpEmu.Phys.Transmissions

/-!
# The receive path of a network

A binding that is added to a `SimpleNetwork` gets a task that polls its socket
(`poll_socket` of `src/phys/smbus_netdev.rs`). Every such task puts the datagrams that it reads into
the channel of the network, and waits when its 32 slots are taken; `callback_handler` takes them
out. The channel closes with `callback_handler`, and what is put into it from then on is dropped.

Any binding can be added. Adding the network's own takes the lock that a call of `sendto` holds
while it waits for its response; another one has a lock of its own.

## Main definitions

* `Network.Poller`, `Network.Polling`, `Network.Polling.Event`.
* `Network.Polling.step`: one step of a call, of a polling task or of the receive loop.
* `Network.Polling.Transition`: what a step of the receive path does.
* `Network.Polling.netEvents`: the steps of the system of calls that an event stands for.

## Main results

* `Network.Polling.refines_system`: the receive path refines the system of calls.
* `Network.Polling.boundWithId_run`: every datagram comes with the id of `add_physical_binding`.
* `Network.Polling.datagrams_delivered`: no datagram is lost or duplicated.
* `Network.Polling.starved`: a call that transmits before the binding is added blocks the network.
-/

namespace MctpEmu

namespace Network

/-! ### State -/

/-- Where `poll_socket` stands. A message has the `network_id` of its task. -/
inductive Poller
  | reading (networkId : UInt64)
  | handing (cmd : NetworkBindingCallbackMsg)
  /-- The channel is full, and the task waits for a slot. -/
  | blocked (cmd : NetworkBindingCallbackMsg)
  /-- The result of `recv_from` is unwrapped. -/
  | panicked
deriving DecidableEq, Repr

/-- The message that a task has made of a datagram and not handed over. -/
def Poller.message : Poller → Option NetworkBindingCallbackMsg
  | .handing cmd | .blocked cmd => some cmd
  | .reading _ | .panicked => none

/-- The datagram that a task has read and not handed over. -/
def Poller.datagram (poller : Poller) : Option Bytes := poller.message.map (·.buf)

@[simp] theorem Poller.datagram_reading (networkId : UInt64) :
    (Poller.reading networkId).datagram = none := rfl

@[simp] theorem Poller.datagram_handing (cmd : NetworkBindingCallbackMsg) :
    (Poller.handing cmd).datagram = some cmd.buf := rfl

theorem Poller.datagram_of_message {poller : Poller} {cmd : NetworkBindingCallbackMsg}
    (h : poller.message = some cmd) : poller.datagram = some cmd.buf := by
  rw [datagram, h]
  rfl

/-- The id that a task was bound with, while it polls. -/
def Poller.networkId : Poller → Option UInt64
  | .reading networkId => some networkId
  | .handing cmd | .blocked cmd => some cmd.id
  | .panicked => none

/-- The task waits for a slot of the channel. -/
def Poller.waits : Poller → Bool
  | .blocked _ => true
  | .reading _ | .handing _ | .panicked => false

/-- The calls of a network, its channel while `callback_handler` runs, and the tasks that poll.
Three logs that no step reads record the datagrams that were read, those that were put into the
channel, and those that were taken out of it. -/
structure Polling where
  net : State
  channel : Option (BoundedChannel NetworkBindingCallbackMsg 32)
  pollers : List Poller
  read : List Bytes
  accepted : List Bytes
  handled : List Bytes

namespace Polling

inductive Event
  /-- A step of the calls: no datagram is received with it. -/
  | call (e : Network.Event)
  /-- `add_physical_binding` gets the lock of a binding: the network's own one, or another. -/
  | add (binding : Option SmbusNetDevBinding)
  /-- A datagram arrives at a task. -/
  | arrive (k : ℕ) (buf : Bytes)
  /-- The socket fails to receive. -/
  | recvError (k : ℕ)
  /-- A task tries to hand its datagram over. -/
  | handOver (k : ℕ)
  /-- `callback_handler` takes a datagram; `answers` is the call whose request it answers. -/
  | handle (answers : Option ℕ)

/-- The start of a network: its binding is not polled. -/
def init (binding : SmbusNetDevBinding) : Polling :=
  ⟨Network.init binding, some (.empty _ 32), [], [], [], []⟩

/-- The id that `add_physical_binding` binds with. -/
def bindId : UInt64 := 1

section Steps

variable (pec : Bytes → UInt8) (s : Polling)

/-- `SimpleNetwork::add_physical_binding` of the network's own binding or of another one, which gets
a task if it can be bound. The lock is free again at the end. -/
def addPhysicalBinding (binding : Option SmbusNetDevBinding) : Option Polling :=
  -- A call can hold the lock of the network's own binding only.
  if binding = none → s.net.bindingHolder = none then
    match ((binding.getD s.net.net.physBindings).bind bindId).1 with
    | .error _ => some s
    | .ok () => some { s with pollers := s.pollers ++ [.reading bindId] }
  else none

/-- A datagram is cut to the buffer of its task, and an empty one is ignored. -/
def arrive (k : ℕ) (buf : Bytes) : Option Polling :=
  match s.pollers[k]? with
  | some (.reading networkId) =>
    let bufRequest := buf.take 4096
    if bufRequest.length ≠ 0 then
      some { s with
        pollers := s.pollers.set k (.handing (.receive networkId bufRequest))
        read := s.read ++ [bufRequest] }
    else some s
  | _ => none

/-- `rx_callback.send`, whose result is not looked at. -/
def handOver (k : ℕ) : Option Polling :=
  match s.pollers[k]?, s.channel with
  | some (.handing cmd), none | some (.blocked cmd), none =>
    some { s with pollers := s.pollers.set k (.reading cmd.id) }
  | some (.handing cmd), some c =>
    match c.trySend cmd with
    | some channel => some { s with
        channel := some channel
        pollers := s.pollers.set k (.reading cmd.id)
        accepted := s.accepted ++ [cmd.buf] }
    | none => c.wait.map fun channel =>
        { s with channel := some channel, pollers := s.pollers.set k (.blocked cmd) }
  | some (.blocked cmd), some c =>
    (c.fill cmd).map fun channel => { s with
      channel := some channel
      pollers := s.pollers.set k (.reading cmd.id)
      accepted := s.accepted ++ [cmd.buf] }
  | _, _ => none

/-- `callback_handler` takes the oldest datagram; when it panics, its end of the channel is gone. -/
def handle (answers : Option ℕ) : Option Polling :=
  match s.channel with
  | none => none
  | some c =>
    match c.recv with
    | none => none
    | some (cmd, channel) =>
      (Network.step pec s.net (.receive answers cmd.id cmd.buf)).map fun net => { s with
        net
        channel := if net.handlerRunning then some channel else none
        handled := s.handled ++ [cmd.buf] }

/-- The events of the calls are all but the receptions. -/
def isReceive : Network.Event → Bool
  | .receive _ _ _ => true
  | _ => false

/-- One step of a call, of a task or of the receive loop. -/
def step : Event → Option Polling
  | .call e =>
    if isReceive e then none else (Network.step pec s.net e).map fun net => { s with net }
  | .add binding => s.addPhysicalBinding binding
  | .arrive k buf => s.arrive k buf
  | .recvError k =>
    match s.pollers[k]? with
    | some (.reading _) => some { s with pollers := s.pollers.set k .panicked }
    | _ => none
  | .handOver k => s.handOver k
  | .handle answers => s.handle pec answers

end Steps

/-! ### Transitions -/

/-- What a step does. -/
inductive Transition (pec : Bytes → UInt8) (s : Polling) : Event → Polling → Prop
  | call {e : Network.Event} {net : State} (he : isReceive e = false)
      (hnet : Network.step pec s.net e = some net) :
      Transition pec s (.call e) { s with net }
  | add {binding : Option SmbusNetDevBinding}
      (hlock : binding = none → s.net.bindingHolder = none)
      (hsocket : (binding.getD s.net.net.physBindings).socket ≠ none) :
      Transition pec s (.add binding) { s with pollers := s.pollers ++ [.reading bindId] }
  | refuse {binding : Option SmbusNetDevBinding}
      (hlock : binding = none → s.net.bindingHolder = none)
      (hsocket : (binding.getD s.net.net.physBindings).socket = none) :
      Transition pec s (.add binding) s
  | read {k : ℕ} {networkId : UInt64} {buf : Bytes}
      (hpoller : s.pollers[k]? = some (.reading networkId)) (hbuf : buf ≠ []) :
      Transition pec s (.arrive k buf) { s with
        pollers := s.pollers.set k (.handing (.receive networkId (buf.take 4096)))
        read := s.read ++ [buf.take 4096] }
  | ignore {k : ℕ} {networkId : UInt64} (hpoller : s.pollers[k]? = some (.reading networkId)) :
      Transition pec s (.arrive k []) s
  | recvError {k : ℕ} {networkId : UInt64} (hpoller : s.pollers[k]? = some (.reading networkId)) :
      Transition pec s (.recvError k) { s with pollers := s.pollers.set k .panicked }
  | discard {k : ℕ} {poller : Poller} {cmd : NetworkBindingCallbackMsg}
      (hpoller : s.pollers[k]? = some poller) (hcmd : poller.message = some cmd)
      (hchannel : s.channel = none) :
      Transition pec s (.handOver k) { s with pollers := s.pollers.set k (.reading cmd.id) }
  | block {k : ℕ} {cmd : NetworkBindingCallbackMsg}
      {c channel : BoundedChannel NetworkBindingCallbackMsg 32}
      (hpoller : s.pollers[k]? = some (.handing cmd)) (hchannel : s.channel = some c)
      (hroom : ¬ c.HasRoom) (hqueue : channel.queue = c.queue)
      (hsenders : channel.reserved + channel.waiting = c.reserved + c.waiting + 1) :
      Transition pec s (.handOver k)
        { s with channel := some channel, pollers := s.pollers.set k (.blocked cmd) }
  | accept {k : ℕ} {poller : Poller} {cmd : NetworkBindingCallbackMsg}
      {c channel : BoundedChannel NetworkBindingCallbackMsg 32}
      (hpoller : s.pollers[k]? = some poller) (hcmd : poller.message = some cmd)
      (hchannel : s.channel = some c) (hqueue : channel.queue = c.queue ++ [cmd])
      (hsenders : channel.reserved + channel.waiting + poller.waits.toNat =
        c.reserved + c.waiting) :
      Transition pec s (.handOver k) { s with
        channel := some channel
        pollers := s.pollers.set k (.reading cmd.id)
        accepted := s.accepted ++ [cmd.buf] }
  | handle {answers : Option ℕ} {cmd : NetworkBindingCallbackMsg}
      {c channel : BoundedChannel NetworkBindingCallbackMsg 32} {net : State}
      (hchannel : s.channel = some c) (hqueue : c.queue = cmd :: channel.queue)
      (hnet : Network.step pec s.net (.receive answers cmd.id cmd.buf) = some net)
      (hsenders : channel.reserved + channel.waiting = c.reserved + c.waiting) :
      Transition pec s (.handle answers) { s with
        net
        channel := if net.handlerRunning then some channel else none
        handled := s.handled ++ [cmd.buf] }

section Inversion

variable {pec : Bytes → UInt8} {s s' : Polling}

theorem transition_of_handOver {k : ℕ} (h : step pec s (.handOver k) = some s') :
    Transition pec s (.handOver k) s' := by
  rw [step, handOver] at h
  cases hpoller : s.pollers[k]? with
  | none =>
    simp only [hpoller] at h
    cases h
  | some poller =>
    cases hchannel : s.channel with
    | none =>
      cases poller with
      | handing cmd | blocked cmd =>
        simp only [hpoller, hchannel, Option.some.injEq] at h
        obtain rfl : s' = { s with pollers := s.pollers.set k (.reading cmd.id) } := by
          rw [← h, hchannel]
        exact .discard hpoller rfl hchannel
      | reading | panicked =>
        simp only [hpoller] at h
        cases h
    | some c =>
      cases poller with
      | handing cmd =>
        simp only [hpoller, hchannel] at h
        cases hsend : c.trySend cmd with
        | some channel =>
          simp only [hsend, Option.some.injEq] at h
          subst h
          obtain ⟨-, hqueue, hreserved, hwaiting⟩ := BoundedChannel.trySend_eq_some hsend
          refine .accept hpoller rfl hchannel hqueue ?_
          rw [hreserved, hwaiting]
          rfl
        | none =>
          simp only [hsend] at h
          obtain ⟨channel, hwait, rfl⟩ := Option.map_eq_some_iff.mp h
          obtain ⟨hroom, hqueue, hreserved, hwaiting⟩ := BoundedChannel.wait_eq_some hwait
          refine .block hpoller hchannel hroom hqueue ?_
          rw [hreserved, hwaiting, Nat.add_assoc]
      | blocked cmd =>
        simp only [hpoller, hchannel] at h
        obtain ⟨channel, hfill, rfl⟩ := Option.map_eq_some_iff.mp h
        obtain ⟨hqueue, hreserved, hwaiting⟩ := BoundedChannel.fill_eq_some hfill
        refine .accept hpoller rfl hchannel hqueue ?_
        rw [hreserved, hwaiting]
        exact Nat.add_right_comm _ _ 1
      | reading | panicked =>
        simp only [hpoller] at h
        cases h

/-- Every step is one of the transitions. -/
theorem transition_of_step {e : Event} (h : step pec s e = some s') : Transition pec s e s' := by
  cases e with
  | call e =>
    rw [step] at h
    split_ifs at h with hreceive
    obtain ⟨net, hnet, rfl⟩ := Option.map_eq_some_iff.mp h
    exact .call (Bool.eq_false_iff.mpr hreceive) hnet
  | add binding =>
    rw [step, addPhysicalBinding] at h
    split_ifs at h with hlock
    cases hsocket : (binding.getD s.net.net.physBindings).socket with
    | none =>
      simp only [SmbusNetDevBinding.bind, hsocket, Option.some.injEq] at h
      exact h ▸ .refuse hlock hsocket
    | some socket =>
      simp only [SmbusNetDevBinding.bind, hsocket, Option.some.injEq] at h
      refine h ▸ .add hlock ?_
      rw [hsocket]
      exact Option.some_ne_none _
  | arrive k buf =>
    rw [step, arrive] at h
    split at h
    · next hpoller =>
      by_cases hbuf : buf = []
      · subst hbuf
        obtain rfl := Option.some.inj h
        exact .ignore hpoller
      · have hlen : (buf.take 4096).length ≠ 0 := by
          rw [List.length_take]
          have hpos := List.length_pos_iff.mpr hbuf
          omega
        simp only [if_pos hlen, Option.some.injEq] at h
        exact h ▸ .read hpoller hbuf
    · cases h
  | recvError k =>
    rw [step] at h
    split at h
    · next hpoller => exact Option.some.inj h ▸ .recvError hpoller
    · cases h
  | handOver k => exact transition_of_handOver h
  | handle answers =>
    rw [step, handle] at h
    cases hchannel : s.channel with
    | none =>
      rw [hchannel] at h
      cases h
    | some c =>
      simp only [hchannel] at h
      cases hrecv : c.recv with
      | none =>
        rw [hrecv] at h
        cases h
      | some r =>
        obtain ⟨cmd, channel⟩ := r
        simp only [hrecv] at h
        obtain ⟨net, hnet, rfl⟩ := Option.map_eq_some_iff.mp h
        obtain ⟨hqueue, hsenders⟩ := BoundedChannel.recv_eq_some hrecv
        exact .handle hchannel hqueue hnet hsenders

end Inversion

/-! ### The calls -/

/-- The step of the calls that an event stands for. -/
def netEvents (s : Polling) : Event → List Network.Event
  | .call e => [e]
  | .handle answers =>
    match s.channel.bind (·.recv) with
    | some (cmd, _) => [.receive answers cmd.id cmd.buf]
    | none => []
  | _ => []

/-- The datagram that is received with a step of the calls. -/
def reception : Network.Event → Option (UInt64 × Bytes)
  | .receive _ id buf => some (id, buf)
  | _ => none

theorem reception_of_not_isReceive {e : Network.Event} (h : isReceive e = false) :
    reception e = none := by
  cases e with
  | receive answers id buf => cases h
  | _ => rfl

section Run

open StepSystem

variable {pec : Bytes → UInt8} {binding : SmbusNetDevBinding} {C : Polling → Event → Prop}
  {es : List Event} {s s' : Polling}

/-- A datagram that is handled is received by the calls. -/
theorem netEvents_handle {answers : Option ℕ} {cmd : NetworkBindingCallbackMsg}
    {c channel : BoundedChannel NetworkBindingCallbackMsg 32}
    (hchannel : s.channel = some c) (hqueue : c.queue = cmd :: channel.queue) :
    netEvents s (.handle answers) = [.receive answers cmd.id cmd.buf] := by
  obtain ⟨⟨cmd', channel'⟩, hrecv⟩ : ∃ r, c.recv = some r := by
    rw [← Option.ne_none_iff_exists', ne_eq, BoundedChannel.recv_eq_none_iff, hqueue]
    exact List.cons_ne_nil _ _
  obtain rfl : cmd' = cmd := by
    have hqueue' := (BoundedChannel.recv_eq_some hrecv).1
    rw [hqueue] at hqueue'
    exact (List.cons.inj hqueue').1.symm
  simp only [netEvents, hchannel, Option.bind_some, hrecv]

/-- Every task was bound with the id of `add_physical_binding`, and so are the messages in the
channel. -/
structure BoundWithId (s : Polling) : Prop where
  tasks : ∀ (k : ℕ) (poller : Poller) (id : UInt64), s.pollers[k]? = some poller →
    poller.networkId = some id → id = bindId
  queued : ∀ c, s.channel = some c → ∀ cmd ∈ c.queue, cmd.id = bindId

theorem Poller.networkId_of_message {poller : Poller} {cmd : NetworkBindingCallbackMsg}
    (h : poller.message = some cmd) : poller.networkId = some cmd.id := by
  cases poller with
  | handing | blocked =>
    obtain rfl := Option.some.inj h
    rfl
  | reading | panicked => cases h

theorem BoundWithId.init (binding : SmbusNetDevBinding) : BoundWithId (Polling.init binding) where
  tasks _ _ _ hpoller := absurd hpoller nofun
  queued := by
    rintro _ ⟨rfl⟩ cmd hcmd
    cases hcmd

/-- A task goes on with its id, and so do the others. -/
theorem BoundWithId.tasks_set (hs : BoundWithId s) {k : ℕ} {poller poller' : Poller}
    (hpoller : s.pollers[k]? = some poller)
    (hid : ∀ id, poller'.networkId = some id → poller.networkId = some id) (k' : ℕ) (p : Poller)
    (id : UInt64) (hp : (s.pollers.set k poller')[k']? = some p) (hpid : p.networkId = some id) :
    id = bindId := by
  obtain ⟨hlt, -⟩ := List.getElem?_eq_some_iff.mp hpoller
  by_cases hk : k = k'
  · subst hk
    rw [List.getElem?_set_self hlt] at hp
    obtain rfl := Option.some.inj hp
    exact hs.tasks k poller id hpoller (hid id hpid)
  · rw [List.getElem?_set_ne hk] at hp
    exact hs.tasks k' p id hp hpid

/-- Every step keeps the ids. -/
theorem BoundWithId.step (hs : BoundWithId s) {e : Event} (h : Polling.step pec s e = some s') :
    BoundWithId s' := by
  cases transition_of_step h with
  | call | refuse | ignore => exact ⟨hs.tasks, hs.queued⟩
  | add =>
    refine ⟨fun k poller id hpoller hid => ?_, hs.queued⟩
    rcases KeyedFifo.getElem?_concat_eq_some.mp hpoller with hpoller | ⟨-, rfl⟩
    · exact hs.tasks k poller id hpoller hid
    · exact (Option.some.inj hid).symm
  | read hpoller => exact ⟨hs.tasks_set hpoller fun _ hid => hid, hs.queued⟩
  | recvError hpoller => exact ⟨hs.tasks_set hpoller fun _ hid => absurd hid nofun, hs.queued⟩
  | discard hpoller hcmd =>
    have hid := Poller.networkId_of_message hcmd
    exact ⟨hs.tasks_set hpoller fun _ hid' => hid.trans hid', hs.queued⟩
  | block hpoller hchannel hroom hqueue =>
    refine ⟨hs.tasks_set hpoller fun _ hid => hid, ?_⟩
    rintro _ ⟨rfl⟩ cmd hcmd
    exact hs.queued _ hchannel cmd (hqueue ▸ hcmd)
  | @accept k poller cmd c channel hpoller hcmd hchannel hqueue =>
    have hid := Poller.networkId_of_message hcmd
    refine ⟨hs.tasks_set hpoller fun _ hid' => hid.trans hid', ?_⟩
    rintro _ ⟨rfl⟩ cmd' hcmd'
    rw [hqueue] at hcmd'
    rcases List.mem_append.mp hcmd' with hcmd' | hcmd'
    · exact hs.queued c hchannel cmd' hcmd'
    · obtain rfl := List.mem_singleton.mp hcmd'
      exact hs.tasks k poller _ hpoller hid
  | @handle answers cmd c channel net hchannel hqueue =>
    refine ⟨hs.tasks, fun d hd cmd' hcmd' => ?_⟩
    obtain rfl : channel = d := by
      split_ifs at hd
      exact Option.some.inj hd
    exact hs.queued c hchannel cmd' (hqueue ▸ List.mem_cons_of_mem _ hcmd')

/-- Every task and every message in the channel has the id that `add_physical_binding` binds
with. -/
theorem boundWithId_run (h : Run (step pec) C (init binding) es s) : BoundWithId s :=
  h.invariant (.init binding) fun _ _ _ hs _ hstep => hs.step hstep

/-- The calls take the steps of an event. -/
theorem run_of_step {e : Event} (h : step pec s e = some s') :
    Run (Network.step pec) (fun _ _ => True) s.net (netEvents s e) s'.net := by
  cases transition_of_step h with
  | call he hnet => exact Run.nil.snoc hnet trivial
  | handle hchannel hqueue hnet =>
    rw [netEvents_handle hchannel hqueue]
    exact Run.nil.snoc hnet trivial
  | _ => exact .nil

/-- What the calls receive in a step is handled, and has the id of the binding. -/
theorem handled_of_step (hs : BoundWithId s) {e : Event} (h : step pec s e = some s') :
    ∃ bufs, s'.handled = s.handled ++ bufs ∧
      (netEvents s e).filterMap reception = bufs.map (bindId, ·) := by
  cases transition_of_step h with
  | @call e net he hnet =>
    refine ⟨[], (List.append_nil _).symm, ?_⟩
    rw [netEvents, List.filterMap_cons_none (reception_of_not_isReceive he)]
    rfl
  | @handle answers cmd c channel net hchannel hqueue hnet =>
    have hid : cmd.id = bindId := hs.queued c hchannel cmd (hqueue ▸ List.mem_cons_self)
    refine ⟨[cmd.buf], rfl, ?_⟩
    rw [netEvents_handle hchannel hqueue, hid]
    rfl
  | _ => exact ⟨[], (List.append_nil _).symm, rfl⟩

/-- A run of the receive path is a run of the calls. -/
theorem run_net (h : Run (step pec) C (init binding) es s) :
    Run (Network.step pec) (fun _ _ => True) (Network.init binding)
      (trace (step pec) netEvents (init binding) es) s.net :=
  h.simulates (I := fun _ => True) Polling.net trivial (fun _ _ _ _ _ _ => trivial)
    fun _ _ _ _ _ hstep => run_of_step hstep

/-- A run of the receive path is a run of the calls, which receive the datagrams that
`callback_handler` takes out of the channel, in their order and with the id of the binding. -/
theorem refines_system (h : Run (step pec) C (init binding) es s) :
    Run (Network.step pec) (fun _ _ => True) (Network.init binding)
        (trace (step pec) netEvents (init binding) es) s.net ∧
      (trace (step pec) netEvents (init binding) es).filterMap reception =
        s.handled.map (bindId, ·) := by
  refine ⟨run_net h, ?_⟩
  induction h with
  | nil => rfl
  | @snoc es s s' e hrun hstep hC ih =>
    obtain ⟨bufs, hhandled, hbufs⟩ := handled_of_step (boundWithId_run hrun) hstep
    rw [hrun.trace_snoc, List.filterMap_append, ih, hbufs, hhandled, List.map_append]

/-- A call of socket 0 of a network whose binding is polled gets the response that a task reads,
and the task reads another datagram. -/
def sampleExchange : List Event :=
  [.add none, .call .socket, .call (.bind 0 0x08 0 9),
    .call (.sendto 0 [0x00, 0x80, 0x02] (.extended 0x0A 1 1 0x25)),
    .call (.transmit 0 (.ok 12, .ok 12)), .arrive 0 (sampleReply 0x08 0x02), .handOver 0,
    .handle (some 0), .call (.resume 0), .arrive 0 [0x20]]

theorem run_sampleExchange {C : Polling → Event → Prop} (hC : ∀ s e, C s e) :
    ∃ s, Run (step crc8) C (init sampleBinding) sampleExchange s ∧
      s.handled = [sampleReply 0x08 0x02] ∧ s.read = [sampleReply 0x08 0x02, [0x20]] ∧
        s.net.handlerRunning = true ∧ s.pollers = [.handing (.receive 1 [0x20])] ∧
          s.net.calls = [sampleReturned 0x08 0x02 (sampleLabel 0 0x08 0x02)] :=
  ⟨_, .cons rfl (hC _ _) (.cons rfl (hC _ _) (.cons rfl (hC _ _) (.cons rfl (hC _ _)
    (.cons rfl (hC _ _) (.cons rfl (hC _ _) (.cons rfl (hC _ _) (.cons rfl (hC _ _)
      (.cons rfl (hC _ _) (.cons rfl (hC _ _) .nil))))))))), rfl, rfl, rfl, rfl, rfl⟩

/-- The call receives the one datagram that is handled. -/
theorem refines_system_sampleExchange : ∃ s : Polling,
    Run (Network.step crc8) (fun _ _ => True) (Network.init sampleBinding)
        (trace (step crc8) netEvents (init sampleBinding) sampleExchange) s.net ∧
      (trace (step crc8) netEvents (init sampleBinding) sampleExchange).filterMap reception =
        [(1, sampleReply 0x08 0x02)] ∧
      s.net.calls = [sampleReturned 0x08 0x02 (sampleLabel 0 0x08 0x02)] := by
  obtain ⟨s, hrun, hhandled, -, -, -, hcalls⟩ :=
    @run_sampleExchange (fun _ _ => True) fun _ _ => trivial
  obtain ⟨hnet, hreceived⟩ := refines_system hrun
  rw [hhandled] at hreceived
  exact ⟨s, hnet, hreceived, hcalls⟩

end Run

/-! ### The invariant of all runs -/

/-- What the tasks have in their hands. -/
def inHands (s : Polling) : List Bytes := s.pollers.filterMap Poller.datagram

/-- What holds in every run: the channel is open as long as the receive loop runs, it keeps the
order of its datagrams, and until it closes every datagram that was read was put into it or is in
the hands of a task. No call has a response before a datagram is handled. -/
structure Consistent (s : Polling) : Prop where
  net : WellFormed s.net
  isSome_eq : s.channel.isSome = s.net.handlerRunning
  inOrder : BoundedChannel.InOrder s.accepted s.handled (s.channel.map (·.map (·.buf)))
  conserved : ∃ lost : Multiset Bytes,
    (s.read : Multiset Bytes) = s.accepted + s.inHands + lost ∧
      (s.net.handlerRunning = true → lost = 0)
  single : s.pollers.length ≤ 1 → s.net.handlerRunning = true → s.read = s.accepted ++ s.inHands
  unpolled : s.pollers = [] → s.read = []
  unanswered : s.handled = [] → ∀ call ∈ s.net.calls, call.reply = none

section Lists

variable {α β : Type*}

/-- One element of a list is exchanged. -/
theorem coe_filterMap_set {f : α → Option β} {l : List α} {k : ℕ} {a : α} (h : l[k]? = some a)
    (b : α) :
    ((l.set k b).filterMap f + (f a).toList : Multiset β) = l.filterMap f + (f b).toList := by
  obtain ⟨hlt, rfl⟩ := List.getElem?_eq_some_iff.mp h
  have hcons (x : α) : ((x :: l.eraseIdx k).filterMap f : Multiset β) =
      (f x).toList + (l.eraseIdx k).filterMap f := by
    cases hx : f x with
    | none =>
      rw [List.filterMap_cons_none hx, Option.toList_none, Multiset.coe_nil, zero_add]
    | some y => rw [List.filterMap_cons_some hx, Option.toList_some, Multiset.coe_add,
        List.singleton_append]
  have hset := Multiset.coe_eq_coe.mpr ((List.set_perm_cons_eraseIdx hlt b).filterMap f)
  have hget := Multiset.coe_eq_coe.mpr ((List.getElem_cons_eraseIdx_perm hlt).filterMap f)
  rw [hset, ← hget, hcons, hcons]
  abel

/-- A list of at most one element. -/
theorem eq_singleton_of_getElem? {l : List α} {k : ℕ} {a : α} (h : l[k]? = some a)
    (hlen : l.length ≤ 1) : k = 0 ∧ l = [a] := by
  obtain ⟨hlt, rfl⟩ := List.getElem?_eq_some_iff.mp h
  obtain rfl : k = 0 := by omega
  obtain ⟨b, rfl⟩ := List.length_eq_one_iff.mp (Nat.le_antisymm hlen hlt)
  exact ⟨rfl, rfl⟩

end Lists

namespace Consistent

variable {pec : Bytes → UInt8} {binding : SmbusNetDevBinding} {s s' : Polling}

/-- What an open channel keeps in order. -/
theorem inOrder_some (hs : Consistent s) {c : BoundedChannel NetworkBindingCallbackMsg 32}
    (hchannel : s.channel = some c) :
    BoundedChannel.InOrder s.accepted s.handled (some (c.map (·.buf))) := by
  have horder := hs.inOrder
  rwa [hchannel] at horder

theorem init : Consistent (init binding) where
  net := .init binding
  isSome_eq := rfl
  inOrder := .empty
  conserved := ⟨0, rfl, fun _ => rfl⟩
  single _ _ := rfl
  unpolled _ := rfl
  unanswered _ _ hcall := absurd hcall List.not_mem_nil

/-- The loop runs while the channel is open. -/
theorem running (hs : Consistent s) {c : BoundedChannel NetworkBindingCallbackMsg 32}
    (h : s.channel = some c) : s.net.handlerRunning = true := by
  rw [← hs.isSome_eq, h]
  rfl

/-- A task is exchanged, as far as the datagrams that it has in its hands go. -/
theorem coe_inHands {k : ℕ} {poller : Poller} (h : s.pollers[k]? = some poller)
    (poller' : Poller) :
    ((s.pollers.set k poller').filterMap Poller.datagram + poller.datagram.toList :
      Multiset Bytes) = s.inHands + poller'.datagram.toList :=
  coe_filterMap_set h poller'

theorem ne_nil {k : ℕ} {poller poller' : Poller} (h : s.pollers[k]? = some poller) :
    s.pollers.set k poller' ≠ [] := by
  intro hnil
  obtain ⟨hlt, -⟩ := List.getElem?_eq_some_iff.mp h
  rw [← List.length_set (a := poller'), hnil] at hlt
  exact absurd hlt (Nat.not_lt_zero k)

/-- A task that has nothing to hand over, or what it had before, changes its state. -/
theorem set (hs : Consistent s) {k : ℕ} {poller : Poller} (poller' : Poller)
    (channel : Option (BoundedChannel NetworkBindingCallbackMsg 32))
    (hpoller : s.pollers[k]? = some poller) (hsame : poller'.datagram = poller.datagram)
    (hsome : channel.isSome = s.net.handlerRunning)
    (horder : BoundedChannel.InOrder s.accepted s.handled (channel.map (·.map (·.buf)))) :
    Consistent { s with channel, pollers := s.pollers.set k poller' } where
  net := hs.net
  isSome_eq := hsome
  inOrder := horder
  conserved := by
    obtain ⟨lost, hread, hlost⟩ := hs.conserved
    have hhands := coe_inHands hpoller poller'
    rw [hsame, add_left_inj] at hhands
    refine ⟨lost, hread.trans ?_, hlost⟩
    exact congrArg (s.accepted + · + lost) hhands.symm
  single hlen hrunning := by
    rw [List.length_set] at hlen
    obtain ⟨rfl, hpollers⟩ := eq_singleton_of_getElem? hpoller hlen
    rw [hs.single hlen hrunning]
    simp only [inHands, hpollers, List.set_cons_zero, List.filterMap_cons, hsame]
  unpolled hnil := absurd hnil (ne_nil hpoller)
  unanswered := hs.unanswered

/-- A task is started. -/
theorem add (hs : Consistent s) (id : UInt64) :
    Consistent { s with pollers := s.pollers ++ [.reading id] } where
  net := hs.net
  isSome_eq := hs.isSome_eq
  inOrder := hs.inOrder
  conserved := by
    obtain ⟨lost, hread, hlost⟩ := hs.conserved
    refine ⟨lost, hread.trans ?_, hlost⟩
    simp only [inHands, List.filterMap_append, List.filterMap_cons, Poller.datagram_reading,
      List.filterMap_nil, List.append_nil]
  single hlen hrunning := by
    have hlen' : s.pollers.length ≤ 1 := by
      rw [List.length_append] at hlen
      exact Nat.le_of_add_right_le hlen
    simp only [hs.single hlen' hrunning, inHands, List.filterMap_append, List.filterMap_cons,
      Poller.datagram_reading, List.filterMap_nil, List.append_nil]
  unpolled hnil := absurd hnil (List.append_ne_nil_of_right_ne_nil _ (List.cons_ne_nil _ _))
  unanswered := hs.unanswered

/-- A task reads a datagram. -/
theorem read (hs : Consistent s) {k : ℕ} {id : UInt64}
    (hpoller : s.pollers[k]? = some (.reading id)) (buf : Bytes) :
    Consistent { s with
      pollers := s.pollers.set k (.handing (.receive id buf)), read := s.read ++ [buf] } where
  net := hs.net
  isSome_eq := hs.isSome_eq
  inOrder := hs.inOrder
  conserved := by
    obtain ⟨lost, hread, hlost⟩ := hs.conserved
    have hhands := coe_inHands hpoller (.handing (.receive id buf))
    rw [Poller.datagram_reading, Poller.datagram_handing, Option.toList_none, Multiset.coe_nil,
      add_zero] at hhands
    refine ⟨lost, ?_, hlost⟩
    change ((s.read ++ [buf] : List Bytes) : Multiset Bytes) =
      s.accepted + (s.pollers.set k (.handing (.receive id buf))).filterMap Poller.datagram + lost
    rw [hhands, ← Multiset.coe_add, hread, Option.toList_some]
    abel
  single hlen hrunning := by
    rw [List.length_set] at hlen
    obtain ⟨rfl, hpollers⟩ := eq_singleton_of_getElem? hpoller hlen
    simp only [hs.single hlen hrunning, inHands, hpollers, List.set_cons_zero,
      List.filterMap_cons, Poller.datagram_reading, Poller.datagram_handing, List.filterMap_nil,
      List.append_nil]
  unpolled hnil := absurd hnil (ne_nil hpoller)
  unanswered := hs.unanswered

/-- After the channel is closed a task drops its datagram. -/
theorem discard (hs : Consistent s) {k : ℕ} {poller : Poller} {cmd : NetworkBindingCallbackMsg}
    (hpoller : s.pollers[k]? = some poller) (hcmd : poller.message = some cmd)
    (hchannel : s.channel = none) :
    Consistent { s with pollers := s.pollers.set k (.reading cmd.id) } where
  net := hs.net
  isSome_eq := hs.isSome_eq
  inOrder := hs.inOrder
  conserved := by
    obtain ⟨lost, hread, -⟩ := hs.conserved
    have hhands := coe_inHands hpoller (.reading cmd.id)
    rw [Poller.datagram_of_message hcmd, Poller.datagram_reading, Option.toList_none,
      Multiset.coe_nil, add_zero] at hhands
    refine ⟨(some cmd.buf).toList + lost, ?_, fun hrunning => ?_⟩
    · change (s.read : Multiset Bytes) =
        s.accepted + (s.pollers.set k (.reading cmd.id)).filterMap Poller.datagram +
          ((some cmd.buf).toList + lost)
      rw [hread, ← hhands]
      abel
    · rw [← hs.isSome_eq, hchannel] at hrunning
      cases hrunning
  single _ hrunning := by
    rw [← hs.isSome_eq, hchannel] at hrunning
    cases hrunning
  unpolled hnil := absurd hnil (ne_nil hpoller)
  unanswered := hs.unanswered

/-- A task puts its datagram into the channel. -/
theorem accept (hs : Consistent s) {k : ℕ} {poller : Poller} {cmd : NetworkBindingCallbackMsg}
    {c channel : BoundedChannel NetworkBindingCallbackMsg 32}
    (hpoller : s.pollers[k]? = some poller) (hcmd : poller.message = some cmd)
    (hchannel : s.channel = some c) (hqueue : channel.queue = c.queue ++ [cmd]) :
    Consistent { s with
      channel := some channel
      pollers := s.pollers.set k (.reading cmd.id)
      accepted := s.accepted ++ [cmd.buf] } where
  net := hs.net
  isSome_eq := (hs.running hchannel).symm
  inOrder := (hs.inOrder_some hchannel).send (BoundedChannel.queue_map_concat _ hqueue)
  conserved := by
    obtain ⟨lost, hread, hlost⟩ := hs.conserved
    have hhands := coe_inHands hpoller (.reading cmd.id)
    rw [Poller.datagram_of_message hcmd, Poller.datagram_reading, Option.toList_none,
      Option.toList_some, Multiset.coe_nil, add_zero] at hhands
    refine ⟨lost, ?_, hlost⟩
    change (s.read : Multiset Bytes) =
      ((s.accepted ++ [cmd.buf] : List Bytes) : Multiset Bytes) +
        (s.pollers.set k (.reading cmd.id)).filterMap Poller.datagram + lost
    rw [hread, ← hhands, ← Multiset.coe_add]
    abel
  single hlen hrunning := by
    rw [List.length_set] at hlen
    obtain ⟨rfl, hpollers⟩ := eq_singleton_of_getElem? hpoller hlen
    simp only [hs.single hlen hrunning, inHands, hpollers, List.set_cons_zero,
      List.filterMap_cons, Poller.datagram_of_message hcmd, Poller.datagram_reading,
      List.filterMap_nil, List.append_nil]
  unpolled hnil := absurd hnil (ne_nil hpoller)
  unanswered := hs.unanswered

/-- `callback_handler` takes a datagram out, and the channel closes if it panics. -/
theorem handle (hs : Consistent s) {answers : Option ℕ} {cmd : NetworkBindingCallbackMsg}
    {c channel : BoundedChannel NetworkBindingCallbackMsg 32} {net : State}
    (hchannel : s.channel = some c) (hqueue : c.queue = cmd :: channel.queue)
    (hnet : Network.step pec s.net (.receive answers cmd.id cmd.buf) = some net) :
    Consistent { s with
      net
      channel := if net.handlerRunning then some channel else none
      handled := s.handled ++ [cmd.buf] } where
  net := hs.net.step hnet
  isSome_eq := by cases net.handlerRunning <;> rfl
  inOrder := by
    have horder := (hs.inOrder_some hchannel).recv (BoundedChannel.queue_map_cons _ hqueue)
    cases net.handlerRunning with
    | true => exact horder
    | false => exact horder.close
  conserved := by
    obtain ⟨lost, hread, hlost⟩ := hs.conserved
    exact ⟨lost, hread, fun _ => hlost (hs.running hchannel)⟩
  single hlen _ := hs.single hlen (hs.running hchannel)
  unpolled := hs.unpolled
  unanswered hnil := absurd hnil (List.append_ne_nil_of_right_ne_nil _ (List.cons_ne_nil _ _))

/-- A step of the calls that receives nothing keeps the loop running and answers no call. -/
theorem keeps_of_call {net net' : State} {e : Network.Event} (hnet : WellFormed net)
    (he : isReceive e = false) (h : Network.step pec net e = some net') :
    net'.handlerRunning = net.handlerRunning ∧
      ((∀ call ∈ net.calls, call.reply = none) → ∀ call ∈ net'.calls, call.reply = none) := by
  -- A call that changes its stage keeps its reply.
  have hgoto {i : ℕ} {call : Call} (stage : Stage) (hcall : net.calls[i]? = some call)
      (hall : ∀ call ∈ net.calls, call.reply = none) :
      ∀ c ∈ net.calls.set i (call.goto stage), c.reply = none := by
    intro c hc
    rcases List.mem_or_eq_of_mem_set hc with hc | rfl
    · exact hall c hc
    · exact hall call (List.mem_of_getElem? hcall)
  have hconcat {call : Call} (hreply : call.reply = none)
      (hall : ∀ call ∈ net.calls, call.reply = none) :
      ∀ c ∈ net.calls ++ [call], c.reply = none := by
    intro c hc
    rcases List.mem_append.mp hc with hc | hc
    · exact hall c hc
    · obtain rfl := List.mem_singleton.mp hc
      exact hreply
  cases Network.transition_of_step hnet.poisoned_of_running h with
  | socket | bind => exact ⟨rfl, id⟩
  | register => exact ⟨rfl, hconcat rfl⟩
  | refuse payload hrefused hstage hreply => exact ⟨rfl, hconcat hreply⟩
  | transmit hcall | abort hcall | resume hcall | drop hcall => exact ⟨rfl, hgoto _ hcall⟩
  | discard | complete | crash => cases he

/-- Every step keeps the invariant. -/
theorem step (hs : Consistent s) {e : Event} (h : Polling.step pec s e = some s') :
    Consistent s' := by
  cases transition_of_step h with
  | call he hnet =>
    obtain ⟨hrunning, hreplies⟩ := keeps_of_call hs.net he hnet
    refine ⟨hs.net.step hnet, hs.isSome_eq.trans hrunning.symm, hs.inOrder, ?_, ?_, hs.unpolled,
      fun hnil => hreplies (hs.unanswered hnil)⟩
    · obtain ⟨lost, hread, hlost⟩ := hs.conserved
      exact ⟨lost, hread, fun h => hlost (hrunning.symm.trans h)⟩
    · exact fun hlen h => hs.single hlen (hrunning.symm.trans h)
  | add hlock hsocket => exact hs.add bindId
  | refuse | ignore => exact hs
  | read hpoller hbuf => exact hs.read hpoller _
  | recvError hpoller => exact hs.set _ _ hpoller rfl hs.isSome_eq hs.inOrder
  | discard hpoller hcmd hchannel => exact hs.discard hpoller hcmd hchannel
  | block hpoller hchannel hroom hqueue =>
    exact hs.set _ _ hpoller rfl (hs.running hchannel).symm
      ((hs.inOrder_some hchannel).keep (BoundedChannel.queue_map_congr _ hqueue))
  | accept hpoller hcmd hchannel hqueue => exact hs.accept hpoller hcmd hchannel hqueue
  | handle hchannel hqueue hnet => exact hs.handle hchannel hqueue hnet

end Consistent

/-! ### The datagrams -/

section Delivery

open StepSystem

variable {pec : Bytes → UInt8} {binding : SmbusNetDevBinding} {C : Polling → Event → Prop}
  {es : List Event} {s : Polling}

theorem consistent_run (h : Run (step pec) C (init binding) es s) : Consistent s :=
  h.invariant .init fun _ _ _ hs _ hstep => hs.step hstep

/-- What was read has arrived, and was cut to the buffer of its task. -/
theorem mem_read_run (h : Run (step pec) C (init binding) es s) {buf : Bytes}
    (hbuf : buf ∈ s.read) : ∃ k bytes, .arrive k bytes ∈ es ∧ buf = bytes.take 4096 := by
  induction h with
  | nil => cases hbuf
  | @snoc es s s' e hrun hstep _ ih =>
    have hold (hread : buf ∈ s.read) :
        ∃ k bytes, Event.arrive k bytes ∈ es ++ [e] ∧ buf = bytes.take 4096 := by
      obtain ⟨k, bytes, hmem, hcut⟩ := ih hread
      exact ⟨k, bytes, List.mem_append_left _ hmem, hcut⟩
    cases transition_of_step hstep with
    | @read k networkId bytes =>
      rcases List.mem_append.mp hbuf with hbuf | hbuf
      · exact hold hbuf
      · exact ⟨k, bytes, List.mem_append_right _ (List.mem_singleton_self _),
          List.mem_singleton.mp hbuf⟩
    | _ => exact hold hbuf

/-- What is handled has been read. -/
theorem Consistent.subperm (hs : Consistent s) : s.handled.Subperm s.read := by
  obtain ⟨lost, hread, -⟩ := hs.conserved
  refine hs.inOrder.received_prefix.sublist.subperm.trans (Multiset.coe_le.mp ?_)
  rw [hread, add_assoc]
  exact Multiset.le_add_right _ _

/-- **No datagram is lost, duplicated or made up.** Until the receive loop ends, a datagram that was
read has been handled, is in the channel or is in the hands of a task; one task keeps their order.
From then on nothing is handled twice. -/
theorem datagrams_delivered (h : Run (step pec) C (init binding) es s) :
    s.handled.Subperm s.read ∧
      (s.net.handlerRunning = true → ∃ c, s.channel = some c ∧
        s.read.Perm (s.handled ++ c.queue.map (·.buf) ++ s.inHands) ∧
          (s.pollers.length ≤ 1 → s.read = s.handled ++ c.queue.map (·.buf) ++ s.inHands)) := by
  have hs := consistent_run h
  refine ⟨hs.subperm, fun hrunning => ?_⟩
  obtain ⟨c, hc⟩ : ∃ c, s.channel = some c :=
    Option.isSome_iff_exists.mp (hs.isSome_eq.trans hrunning)
  have hsent : s.accepted = s.handled ++ c.queue.map (·.buf) :=
    (hs.inOrder_some hc).sent_eq _ rfl
  refine ⟨c, hc, ?_, fun hlen => ?_⟩
  · obtain ⟨lost, hread, hlost⟩ := hs.conserved
    rw [hlost hrunning, add_zero, hsent, Multiset.coe_add] at hread
    exact Multiset.coe_eq_coe.mp hread
  · rw [hs.single hlen hrunning, hsent]

/-- The response that was handled, and the datagram in the hands of the task, are all that was
read. -/
theorem datagrams_delivered_sampleExchange :
    ∃ (s : Polling) (c : BoundedChannel NetworkBindingCallbackMsg 32),
      s.channel = some c ∧ [sampleReply 0x08 0x02, [0x20]] =
        [sampleReply 0x08 0x02] ++ c.queue.map (·.buf) ++ [[0x20]] := by
  obtain ⟨s, hrun, hhandled, hread, hrunning, hpollers, -⟩ :=
    @run_sampleExchange (fun _ _ => True) fun _ _ => trivial
  obtain ⟨-, hopen⟩ := datagrams_delivered hrun
  obtain ⟨c, hc, -, hsingle⟩ := hopen hrunning
  have hlen : s.pollers.length ≤ 1 := by
    rw [hpollers]
    exact le_rfl
  have heq := hsingle hlen
  rw [hread, hhandled, inHands, hpollers] at heq
  exact ⟨s, c, hc, heq⟩

/-! ### A call before the binding is added -/

/-- A call holds the lock, and nothing is polled. -/
def Starved (i : ℕ) (s : Polling) : Prop :=
  Consistent s ∧ s.pollers = [] ∧ s.net.bindingHolder = some i

/-- Without a task nothing is ever received. -/
theorem Consistent.of_unpolled (hs : Consistent s) (hpollers : s.pollers = []) :
    s.handled = [] ∧ (∀ c, s.channel = some c → c.queue = []) ∧
      ∀ call ∈ s.net.calls, call.reply = none := by
  have hhandled : s.handled = [] := by
    have hsub := hs.subperm
    rw [hs.unpolled hpollers] at hsub
    exact List.subperm_nil.mp hsub
  refine ⟨hhandled, fun c hc => ?_, hs.unanswered hhandled⟩
  obtain ⟨lost, hread, -⟩ := hs.conserved
  have hlen := congrArg Multiset.card hread
  have hsent : s.accepted = s.handled ++ c.queue.map (·.buf) :=
    (hs.inOrder_some hc).sent_eq _ rfl
  rw [hs.unpolled hpollers, hsent] at hlen
  simp only [Multiset.card_add, Multiset.coe_card, List.length_append, List.length_map,
    List.length_nil] at hlen
  exact List.length_eq_zero_iff.mp (by omega)

/-- A step that does not drop call `i` and does not add another binding. -/
def KeepsStarved (i : ℕ) : Event → Prop
  | .call e => e ≠ .drop i
  | .add binding => binding = none
  | _ => True

/-- Such a step keeps the call that holds the lock where it is, and sends no whole frame. -/
theorem Starved.step {i : ℕ} {s' : Polling} {e : Event} (hs : Starved i s)
    (he : KeepsStarved i e) (h : Polling.step pec s e = some s') :
    Starved i s' ∧ s'.net.sent = s.net.sent := by
  obtain ⟨hcons, hpollers, hholder⟩ := hs
  have hcons' := hcons.step h
  obtain ⟨-, hqueue, hreply⟩ := hcons.of_unpolled hpollers
  have hnone (k : ℕ) (poller : Poller) : s.pollers[k]? ≠ some poller := by
    rw [hpollers, List.getElem?_nil]
    exact (Option.some_ne_none poller).symm
  have hheld : s.net.bindingHolder ≠ none := by
    rw [hholder]
    exact Option.some_ne_none i
  cases transition_of_step h with
  | @call e net hreceive hnet =>
    refine (?_ : net.bindingHolder = some i ∧ net.sent = s.net.sent).imp_left
      fun hholder' => ⟨hcons', hpollers, hholder'⟩
    cases Network.transition_of_step hcons.net.poisoned_of_running hnet with
    | socket | bind | register | refuse => exact ⟨hholder, rfl⟩
    | transmit hcall hstage hfree | abort hcall hstage hfree => exact absurd hfree hheld
    | resume hcall hstage hsome =>
      rw [hreply _ (List.mem_of_getElem? hcall)] at hsome
      cases hsome
    | @drop j call hcall hopen =>
      have hji : s.net.bindingHolder ≠ some j := by
        rw [hholder]
        rintro ⟨rfl⟩
        exact he rfl
      exact ⟨(if_neg hji).trans hholder, rfl⟩
    | discard | complete | crash => cases hreceive
  | add hlock | refuse hlock => exact absurd (hlock he) hheld
  | read hpoller | ignore hpoller | recvError hpoller | discard hpoller | block hpoller
  | accept hpoller => exact absurd hpoller (hnone _ _)
  | handle hchannel hcons =>
    rw [hqueue _ hchannel] at hcons
    cases hcons

/-- **A call before the binding is added blocks the network.** While a call holds the lock of the
binding and nothing is polled, the binding is never added, no whole frame is sent and no call
returns, unless that call is dropped or another binding is added. -/
theorem starved {i : ℕ} {es' : List Event} {s' : Polling}
    (h : Run (step pec) C (init binding) es s) (hpollers : s.pollers = [])
    (hholder : s.net.bindingHolder = some i)
    (h' : Run (step pec) (fun _ e => KeepsStarved i e) s es' s') :
    s'.pollers = [] ∧ s'.net.bindingHolder = some i ∧ s'.net.sent = s.net.sent ∧
      ∀ call ∈ s'.net.calls, ∀ addr buf, call.stage ≠ .returned addr buf := by
  have hs : Starved i s := ⟨consistent_run h, hpollers, hholder⟩
  obtain ⟨⟨hcons', hpollers', hholder'⟩, hsent⟩ :
      Starved i s' ∧ s'.net.sent = s.net.sent := by
    refine h'.invariant (I := fun t => Starved i t ∧ t.net.sent = s.net.sent) ⟨hs, rfl⟩ ?_
    rintro t e t' ⟨ht, hsent⟩ he hstep
    obtain ⟨ht', hsent'⟩ := ht.step he hstep
    exact ⟨ht', hsent'.trans hsent⟩
  refine ⟨hpollers', hholder', hsent, fun call hcall addr buf hstage => ?_⟩
  obtain ⟨j, hj⟩ := List.getElem?_of_mem hcall
  obtain ⟨reply, hreply, -⟩ := hcons'.net.returned j call addr buf hj hstage
  rw [(hcons'.of_unpolled hpollers').2.2 call hcall] at hreply
  cases hreply

/-- A second call cannot be transmitted after one that came before the binding. -/
theorem starved_sampleCalls : ∃ s s' : Polling,
    Run (step crc8) (fun _ e => KeepsStarved 0 e) s
        [.call (.sendto 0 [0x00, 0x80, 0x05] (.extended 0x0A 1 1 0x25))] s' ∧
      s'.pollers = [] ∧ s'.net.bindingHolder = some 0 ∧ s'.net.sent = s.net.sent ∧
      ∀ call ∈ s'.net.calls, ∀ addr buf, call.stage ≠ .returned addr buf := by
  obtain ⟨s, s', hrun, hrun', hpollers, hholder⟩ : ∃ s s' : Polling,
      Run (step crc8) (fun _ _ => True) (init sampleBinding)
        [.call .socket, .call (.bind 0 0x08 0 9),
          .call (.sendto 0 [0x00, 0x80, 0x02] (.extended 0x0A 1 1 0x25)),
          .call (.transmit 0 (.ok 12, .ok 12))] s ∧
      Run (step crc8) (fun _ e => KeepsStarved 0 e) s
        [.call (.sendto 0 [0x00, 0x80, 0x05] (.extended 0x0A 1 1 0x25))] s' ∧
      s.pollers = [] ∧ s.net.bindingHolder = some 0 :=
    ⟨_, _, .cons rfl trivial (.cons rfl trivial (.cons rfl trivial (.cons rfl trivial .nil))),
      .cons rfl nofun .nil, rfl, rfl⟩
  exact ⟨s, s', hrun', starved hrun hpollers hholder hrun'⟩

/-- A datagram of another binding that is added completes such a call. -/
example : (([.call .socket, .call (.bind 0 0x08 0 9),
    .call (.sendto 0 [0x00, 0x80, 0x02] (.extended 0x0A 1 1 0x25)),
    .call (.transmit 0 (.ok 12, .ok 12)),
    .add (some ⟨0x11, 1, some ⟨"localhost:5560", "localhost:5561"⟩⟩),
    .arrive 0 (sampleReply 0x08 0x02), .handOver 0, .handle (some 0), .call (.resume 0)] :
      List Event).foldlM (step crc8) (init sampleBinding)).map (fun s => s.net.calls) =
    some [sampleReturned 0x08 0x02 (sampleLabel 0 0x08 0x02)] :=
  rfl

end Delivery

end Polling

end Network

end MctpEmu
