import MctpEmu.BusOwner.Deliveries
import MctpEmu.Library.Link
import MctpEmu.Network.Frames

/-!
# The bus owner and the network side by side

The sockets of `examples/basic_bus_owner_loop.rs` and `examples/example_simple_network.rs` are
connected to each other: the program of the bus owner receives what the binding of a
`SimpleNetwork` transmits, and the tasks of the network receive what the program sends. Datagrams
may be lost, delayed, duplicated and reordered between them, but are never changed.

## Main definitions

* `Deployment.ownerParty`, `Deployment.networkParty`: the two programs as parties.
* `Deployment.step`: one step of either of them.

## Main results

* `Deployment.owner_run`, `Deployment.network_run`: each program makes a run of its own.
* `Deployment.handled_owner`, `Deployment.handled_network`: what it takes was sent by the other one.
-/

namespace MctpEmu

open StepSystem

/-! ### What the owner has sent -/

namespace BusOwner.Program

section Sent

variable {cfg : TransportConfig} {pingEid : UInt8} {p p' : Program}

theorem sent_of_deliver {d : Delivery} (h : p.deliver cfg pingEid d = some p') :
    p'.sent = p.sent := by
  obtain ⟨loop, -, rfl⟩ := Option.map_eq_some_iff.mp h
  rfl

theorem sent_of_handOver (h : p.handOver cfg pingEid = some p') : p'.sent = p.sent := by
  rw [handOver] at h
  split at h
  · exact sent_of_deliver h
  · exact sent_of_deliver h
  · dsimp only at h
    split at h
    · obtain rfl := Option.some.inj h
      rfl
    · obtain ⟨channel, -, rfl⟩ := Option.map_eq_some_iff.mp h
      rfl
  · obtain ⟨channel, -, rfl⟩ := Option.map_eq_some_iff.mp h
    rfl
  · cases h

theorem sent_of_resume (h : p.resume cfg pingEid = some p') : p'.sent = p.sent := by
  rw [resume] at h
  split at h
  · exact sent_of_deliver h
  · split_ifs at h
    exact sent_of_deliver h
  · cases h

theorem sent_of_arrive {buf : Bytes} (h : p.arrive buf = some p') : p'.sent = p.sent := by
  rw [arrive] at h
  split_ifs at h
  dsimp only at h
  split_ifs at h
  · split at h
    · obtain rfl := Option.some.inj h
      rfl
    · split at h <;> obtain rfl := Option.some.inj h <;> rfl
  · obtain rfl := Option.some.inj h
    rfl

theorem sent_afterCommand (channel : BoundedChannel PhysicalTransportCommands 32)
    (result : TaskResult × TransportTask) : (p.afterCommand channel result).sent = p.sent := by
  rw [afterCommand]
  cases result.1 <;> rfl

theorem sent_of_command (h : p.command cfg = some p') : p'.sent = p.sent := by
  rw [command] at h
  split at h
  · cases h
  · split_ifs at h
    split at h
    · cases h
    · obtain rfl := Option.some.inj h
      exact sent_afterCommand _ _

/-- What was sent stays sent. -/
theorem sent_prefix_of_step {e : Event} (h : step cfg pingEid p e = some p') :
    p.sent <+: p'.sent := by
  have hkeep (hsent : p'.sent = p.sent) : p.sent <+: p'.sent := hsent ▸ List.prefix_rfl
  cases e with
  | turn | wake =>
    obtain ⟨loop, -, rfl⟩ := Option.map_eq_some_iff.mp h
    exact List.prefix_rfl
  | handOver => exact hkeep (sent_of_handOver h)
  | resume => exact hkeep (sent_of_resume h)
  | arrive buf => exact hkeep (sent_of_arrive h)
  | recvError =>
    rw [step] at h
    split_ifs at h
    obtain rfl := Option.some.inj h
    exact List.prefix_rfl
  | command => exact hkeep (sent_of_command h)
  | transmit sendResult =>
    cases transition_of_transmit h with
    | transmit => exact List.prefix_append _ _
    | abort => exact List.prefix_rfl
    | deliver hdelivers => cases hdelivers

end Sent

end BusOwner.Program

/-! ### The parties -/

namespace Deployment

open BusOwner (Program)

/-- The datagram that an event of the program of a bus owner brings. -/
def ownerReceived : Program.Event → Option Bytes
  | .arrive buf => some buf
  | _ => none

/-- The program of a bus owner. -/
def ownerParty (cfg : TransportConfig) (pingEid : UInt8) :
    Party Program Program.Event Bytes Bytes where
  step := Program.step cfg pingEid
  received := ownerReceived
  sent := Program.sent
  sent_subset h := (Program.sent_prefix_of_step h).subset

/-- The datagram that an event of a network brings. -/
def networkReceived : Network.Polling.Event → Option Bytes
  | .arrive _ buf => some buf
  | _ => none

/-- A network with its calls and its binding. -/
def networkParty (pec : Bytes → UInt8) :
    Party Network.Wired Network.Polling.Event Bytes Bytes where
  step := Network.Wired.step pec
  received := networkReceived
  sent := Network.Wired.frames
  sent_subset h := by
    obtain ⟨-, frames, hadd, -⟩ := Network.Wired.step_eq_some h
    rw [hadd]
    exact List.subset_append_left _ _

/-- One step of the bus owner or of the network. -/
def step (cfg : TransportConfig) (pingEid : UInt8) :
    Program × Network.Wired → Program.Event ⊕ Network.Polling.Event →
      Option (Program × Network.Wired) :=
  link (ownerParty cfg pingEid) (networkParty cfg.pec)

/-- The start of both programs. -/
def init (ctx : MctpEndpointContext) (binding : SmbusNetDevBinding) : Program × Network.Wired :=
  (.init ctx, .init binding)

/-! ### Their runs -/

section Runs

variable {cfg : TransportConfig} {pingEid : UInt8} {ctx : MctpEndpointContext}
  {binding : SmbusNetDevBinding}
  {C : Program × Network.Wired → Program.Event ⊕ Network.Polling.Event → Prop}
  {es : List (Program.Event ⊕ Network.Polling.Event)} {d : Program × Network.Wired}

/-- The bus owner makes a run, in which it receives frames of the network. -/
theorem owner_run (h : Run (step cfg pingEid) C (init ctx binding) es d) :
    Run (Program.step cfg pingEid) (fun _ e => ∀ m ∈ ownerReceived e, m ∈ d.2.frames)
      (.init ctx) (es.filterMap Sum.getLeft?) d.1 :=
  h.fst

/-- The network makes a run, in which it receives frames of the bus owner. -/
theorem network_run (h : Run (step cfg pingEid) C (init ctx binding) es d) :
    Run (Network.Wired.step cfg.pec) (fun _ e => ∀ m ∈ networkReceived e, m ∈ d.1.sent)
      (.init binding) (es.filterMap Sum.getRight?) d.2 :=
  h.snd

/-- What the transport task takes is a frame of the network. -/
theorem handled_owner (h : Run (step cfg pingEid) C (init ctx binding) es d) {buf : Bytes}
    (hbuf : .receiveMsg buf ∈ d.1.handled) : ∃ frame ∈ d.2.frames, buf = frame.take 4096 := by
  have hrun := owner_run h
  have hordered := Program.ordered_run hrun
  have haccepted := hordered.received_prefix.subset hbuf
  have harrived : buf ∈ Program.arrivals (es.filterMap Sum.getLeft?) :=
    (Program.datagrams_accepted_run hrun).1.subset
      (List.mem_filterMap.mpr ⟨_, haccepted, rfl⟩)
  obtain ⟨e, he, hread⟩ := List.mem_filterMap.mp harrived
  cases e with
  | arrive bytes =>
    rw [Program.Event.arrival] at hread
    split_ifs at hread
    exact ⟨bytes, hrun.forall_mem _ he bytes rfl, (Option.some.inj hread).symm⟩
  | _ => cases hread

/-- What `callback_handler` takes is a frame of the bus owner. -/
theorem handled_network (h : Run (step cfg pingEid) C (init ctx binding) es d) {buf : Bytes}
    (hbuf : buf ∈ d.2.polling.handled) : ∃ frame ∈ d.1.sent, buf = frame.take 4096 := by
  have hrun := Network.Wired.run_polling (network_run h)
  have hread := (Network.Polling.consistent_run hrun).subperm.subset hbuf
  obtain ⟨k, bytes, he, hcut⟩ := Network.Polling.mem_read_run hrun hread
  exact ⟨bytes, hrun.forall_mem _ he bytes rfl, hcut⟩

end Runs

end Deployment

end MctpEmu
