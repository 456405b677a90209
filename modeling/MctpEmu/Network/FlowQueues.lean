import MctpEmu.Network.System
import Mathlib.Data.List.Find

/-!
# The flow list as a family of queues

What the flow list is for: for each destination endpoint and tag, the calls that wait for a reply
from there, the oldest first. As long as calls stay alive and transmissions succeed, the list and
its index scan refine this family.

## Main definitions

* `FlowQueues`, `FlowQueues.step`: the family of queues, and what a call or a reply does to it.
* `Network.State.flowQueues`: the family that a state stands for.
* `Network.queueEvent`: what an event means for the family.
* `Network.Steady`: callers stay alive, transmit succeeds, and no datagram stops inside of a
  transport header.

## Main results

* `Network.flowQueues_step`: a step is the operation that its event stands for.
* `Network.flows_refine_queues`: the refinement, over runs.
-/

namespace MctpEmu

/-! ### The abstract model -/

/-- A queue of calls for each destination endpoint and tag, the calls of all queues in the order
in which they came, and the bytes that each call was completed with. -/
@[ext] structure FlowQueues where
  queue : UInt8 × UInt8 → List ℕ
  inFlight : List ℕ
  completed : ℕ → Option Bytes

namespace FlowQueues

inductive Event
  | register (key : UInt8 × UInt8) (call : ℕ)
  | reply (key : UInt8 × UInt8) (buf : Bytes)

def empty : FlowQueues := ⟨fun _ => [], [], fun _ => none⟩

/-- A call joins the queue of its key; a reply completes the oldest call of its queue. -/
def step (q : FlowQueues) : Event → FlowQueues
  | .register key call =>
    { q with
      queue := KeyedFifo.enqueue q.queue key call
      inFlight := q.inFlight ++ [call] }
  | .reply key buf =>
    match q.queue key with
    | [] => q
    | call :: _ =>
      { queue := KeyedFifo.dequeue q.queue key
        inFlight := q.inFlight.erase call
        completed := Function.update q.completed call (some buf) }

theorem step_reply_of_nil {q : FlowQueues} {key : UInt8 × UInt8} (h : q.queue key = [])
    (buf : Bytes) : q.step (.reply key buf) = q := by
  rw [step, h]

theorem step_reply_of_cons {q : FlowQueues} {key : UInt8 × UInt8} {call : ℕ}
    (h : (q.queue key).head? = some call) (buf : Bytes) :
    q.step (.reply key buf) =
      { queue := KeyedFifo.dequeue q.queue key
        inFlight := q.inFlight.erase call
        completed := Function.update q.completed call (some buf) } := by
  obtain ⟨rest, hrest⟩ := List.head?_eq_some_iff.mp h
  rw [step, hrest]

end FlowQueues

namespace Network

open SimpleNetwork

/-- The destination and the tag of a flow. -/
def flowKey (flow : MsgFlowTag × ℕ) : UInt8 × UInt8 := (flow.1.destEid, flow.1.msgTag)

/-- The bytes that were sent on the channel of each call. -/
def completions (calls : List Call) (i : ℕ) : Option Bytes :=
  (calls[i]?.bind Call.reply).map fun reply => reply.response.buf

/-- The family of queues that a state stands for. -/
def State.flowQueues (s : State) : FlowQueues where
  queue key := (KeyedFifo.queue flowKey s.net.flows key).map Prod.snd
  inFlight := s.net.flows.map Prod.snd
  completed := completions s.calls

theorem State.queue_flowQueues (s : State) (key : UInt8 × UInt8) :
    s.flowQueues.queue key = (KeyedFifo.queue flowKey s.net.flows key).map Prod.snd := rfl

/-- What an event means for the queues: a call of a bound socket with tag `g` to the endpoint `d`
joins the queue of `d` and `g` modulo 8, and a datagram with a whole transport header and tag
owner 0 is a reply for the queue of its source and its tag. -/
def queueEvent (s : State) : Event → Option FlowQueues.Event
  | .sendto sd _ (.extended address _ bindingId _) =>
    if bindingId = 1 then
      (s.net.clients sd).map fun client => .register (address, client.tag % 8) s.calls.length
    else none
  | .receive _ _ buf =>
    if buf.length < 8 then none
    else
      match FromBinary.tryFrom TransportHeader (buf.drop 4) with
      | .ok hdr =>
        if hdr.tagOwner = 0 then some (.reply (hdr.sourceEid, hdr.msgTag) (buf.drop 4)) else none
      | .error _ => none
  | _ => none

/-! ### Keys -/

/-- Three low bits are the remainder modulo 8. -/
theorem lowBits_three (g : UInt8) : BitField.lowBits 3 g = g % 8 := by
  refine UInt8.toNat_inj.mp ?_
  rw [BitField.toNat_lowBits, UInt8.toNat_mod]
  rfl

theorem flowKey_flowTag (client : Client) (address : UInt8) (i : ℕ) :
    flowKey (flowTag client address, i) = (address, client.tag % 8) := by
  rw [flowKey, flowTag, lowBits_three]

/-- A flow with the tag owner bit is fit by the packets without it that come from its destination
with its tag. -/
theorem matchesFlow_of_tagOwner (recvTag : MsgFlowTag) {flow : MsgFlowTag × ℕ}
    (howner : flow.1.tagOwner = true) :
    matchesFlow recvTag flow =
      (!recvTag.tagOwner && decide (flowKey flow = (recvTag.srcEid, recvTag.msgTag))) := by
  rw [Bool.eq_iff_iff, matchesFlow_eq_true_iff, howner]
  simp only [Bool.and_eq_true, Bool.not_eq_true', decide_eq_true_eq, flowKey, Prod.mk.injEq]
  constructor
  · rintro ⟨hdest, htag, hfalse⟩
    exact ⟨(Bool.not_eq_true' _).mp hfalse.symm, hdest, htag⟩
  · rintro ⟨hfalse, hdest, htag⟩
    exact ⟨hdest, htag, by rw [hfalse]; rfl⟩

/-- A flow in flight has the tag owner bit. -/
theorem matchesFlow_eq {s : State} (hs : WellFormed s) (recvTag : MsgFlowTag)
    {flow : MsgFlowTag × ℕ} (h : flow ∈ s.net.flows) :
    matchesFlow recvTag flow =
      (!recvTag.tagOwner && decide (flowKey flow = (recvTag.srcEid, recvTag.msgTag))) := by
  obtain ⟨-, client, address, -, -, -, htag, -⟩ := hs.flow flow h
  exact matchesFlow_of_tagOwner recvTag (by rw [htag, flowTag])

/-- A datagram with a whole transport header is matched with the oldest flow of its queue if its tag
owner is 0, and with none otherwise. -/
theorem firstFlow_eq {s : State} (hs : WellFormed s) {buf : Bytes} (hlen : 8 ≤ buf.length) :
    ∃ hdr, FromBinary.tryFrom TransportHeader (buf.drop 4) = .ok hdr ∧
      createTag (buf.drop 4) = some
        ⟨hdr.destinationEid, hdr.sourceEid, hdr.msgTag, hdr.tagOwner != 0⟩ ∧
      s.net.firstFlow buf = if hdr.tagOwner = 0 then
        s.net.flows.find? fun flow => flowKey flow = (hdr.sourceEid, hdr.msgTag) else none := by
  have hdrop : 4 ≤ (buf.drop 4).length := by
    rw [List.length_drop]
    omega
  obtain ⟨hdr, hread, htag⟩ := exists_createTag_of_le hdrop
  refine ⟨hdr, hread, htag, ?_⟩
  rw [firstFlow, if_neg (by omega), htag, Option.bind_some]
  by_cases howner : hdr.tagOwner = 0
  · rw [if_pos howner]
    refine List.find?_congr fun flow hflow => ?_
    rw [matchesFlow_eq hs _ hflow, howner]
    rfl
  · rw [if_neg howner]
    refine List.find?_eq_none.mpr fun flow hflow => ?_
    rw [matchesFlow_eq hs _ hflow, bne_iff_ne.mpr howner]
    simp

/-! ### Runs in which every caller waits -/

/-- Callers stay alive, transmit succeeds, and a datagram has fewer than 4 or at least 8 bytes. -/
def Steady (pec : Bytes → UInt8) (s : State) : Event → Prop
  | .transmit i sends => ∀ call, s.calls[i]? = some call →
    s.net.physBindings.Transmits pec sends call.packet call.phyAddr
  | .drop _ => False
  | .receive _ _ buf => buf.length < 4 ∨ 8 ≤ buf.length
  | _ => True

/-- No call is dropped, and every transmission goes through. -/
def KeepsCallers (pec : Bytes → UInt8) (s : State) : Event → Prop
  | .transmit i sends => ∀ call, s.calls[i]? = some call →
    s.net.physBindings.Transmits pec sends call.packet call.phyAddr
  | .drop _ => False
  | _ => True

theorem Steady.keepsCallers {pec : Bytes → UInt8} {s : State} {e : Event}
    (h : Steady pec s e) : KeepsCallers pec s e := by
  cases e with
  | transmit i sends => exact h
  | drop i => exact h
  | _ => trivial

/-- The receive loop runs and every flow in flight is waited for. -/
structure Attended (s : State) : Prop where
  wellFormed : WellFormed s
  running : s.handlerRunning = true
  attended : ∀ flow ∈ s.net.flows, s.isOpen flow.2 = true

theorem Attended.init (binding : SmbusNetDevBinding) : Attended (Network.init binding) :=
  ⟨.init binding, rfl, nofun⟩

/-- A call that goes on, or that has had its reply, leaves every flow attended. -/
theorem Attended.goto {s : State} (hs : Attended s) {i : ℕ} {call : Call}
    (hcall : s.calls[i]? = some call) {stage : Stage}
    (h : (call.goto stage).isOpen = true ∨ call.reply ≠ none) :
    ∀ flow ∈ s.net.flows,
      State.isOpen { s with calls := s.calls.set i (call.goto stage) } flow.2 = true := by
  intro flow hflow
  obtain ⟨c, -, -, -, hc, hreply, -⟩ := hs.wellFormed.flow flow hflow
  by_cases hi : flow.2 = i
  · obtain rfl : c = call := Option.some.inj (hc.symm.trans (hi ▸ hcall))
    rw [State.isOpen_eq ((getElem?_set_eq_some hcall _).mpr (.inl ⟨hi, rfl⟩))]
    exact h.resolve_right fun hne => hne hreply
  · rw [State.isOpen_eq ((getElem?_set_eq_some hcall _).mpr (.inr ⟨hi, hc⟩)),
      ← State.isOpen_eq hc]
    exact hs.attended flow hflow

/-- Another call leaves every flow attended. -/
theorem Attended.concat {s : State} (hs : Attended s) (call : Call) :
    ∀ flow ∈ s.net.flows, State.isOpen { s with calls := s.calls ++ [call] } flow.2 = true := by
  intro flow hflow
  obtain ⟨c, -, -, -, hc, -⟩ := hs.wellFormed.flow flow hflow
  rw [State.isOpen_eq (KeyedFifo.getElem?_concat_eq_some.mpr (.inl hc)), ← State.isOpen_eq hc]
  exact hs.attended flow hflow

/-- While callers are kept, the receive loop runs on and no flow loses its caller. -/
theorem Attended.step {s s' : State} (hs : Attended s) {pec : Bytes → UInt8} {e : Event}
    (hkeeps : KeepsCallers pec s e) (h : Network.step pec s e = some s') : Attended s' := by
  suffices hkeep : s'.handlerRunning = true ∧ ∀ flow ∈ s'.net.flows, s'.isOpen flow.2 = true from
    ⟨hs.wellFormed.step h, hkeep.1, hkeep.2⟩
  cases transition_of_step hs.wellFormed.poisoned_of_running h with
  | socket => exact ⟨hs.running, hs.attended⟩
  | bind sd address msgType tag =>
    refine ⟨hs.running, fun flow hflow => hs.attended flow ?_⟩
    rwa [flows_bind] at hflow
  | register payload address network phyAddr hclient hpoison =>
    refine ⟨hs.running, fun flow hflow => ?_⟩
    rcases List.mem_append.mp hflow with hflow | hflow
    · exact hs.concat _ flow hflow
    · obtain rfl := List.mem_singleton.mp hflow
      rw [State.isOpen_eq (KeyedFifo.getElem?_concat_eq_some.mpr (.inr ⟨rfl, rfl⟩))]
      rfl
  | refuse payload hrefused hstage hreply => exact ⟨hs.running, hs.concat _⟩
  | transmit hcall hstage hholder hsent => exact ⟨hs.running, hs.goto hcall (.inl rfl)⟩
  | abort hcall hstage hholder hsent => exact absurd (hkeeps _ hcall) hsent
  | resume hcall hstage hreply =>
    exact ⟨hs.running, hs.goto hcall (.inr (by rw [hreply]; nofun))⟩
  | drop hcall hopen => exact hkeeps.elim
  | discard answers id hdiscard => exact ⟨hs.running, hs.attended⟩
  | @complete answers id buf recvTag flow hrunning hfirst htag hfind hopen =>
    refine ⟨hs.running, fun other hother => ?_⟩
    obtain ⟨hmem, hne⟩ :=
      (KeyedFifo.mem_eraseP_iff hs.wellFormed.nodup hfind other).mp hother
    obtain ⟨call, -, -, -, hcall, -⟩ :=
      hs.wellFormed.flow flow (List.mem_of_find?_eq_some hfind)
    obtain ⟨c, -, -, -, hc, -⟩ := hs.wellFormed.flow other hmem
    rw [State.isOpen_eq ((getElem?_modify_eq_some hcall _).mpr (.inr ⟨hne, hc⟩)),
      ← State.isOpen_eq hc]
    exact hs.attended other hmem
  | @crash answers id buf recvTag flow hrunning hfirst htag hfind hclosed =>
    rw [hs.attended flow (List.mem_of_find?_eq_some hfind)] at hclosed
    cases hclosed

/-! ### Refinement -/

theorem completions_set {calls : List Call} {i : ℕ} {call : Call} (hcall : calls[i]? = some call)
    (stage : Stage) : completions (calls.set i (call.goto stage)) = completions calls := by
  funext j
  by_cases hj : j = i
  · rw [completions, completions,
      (getElem?_set_eq_some hcall _).mpr (.inl ⟨hj, rfl⟩), hj, hcall]
    rfl
  · rw [completions, completions, List.getElem?_set_ne (Ne.symm hj)]

theorem completions_concat (calls : List Call) {call : Call} (hreply : call.reply = none) :
    completions (calls ++ [call]) = completions calls := by
  funext j
  rcases Nat.lt_trichotomy j calls.length with hlt | rfl | hgt
  · rw [completions, completions, List.getElem?_append_left hlt]
  · rw [completions, completions, KeyedFifo.getElem?_concat_eq_some.mpr (.inr ⟨rfl, rfl⟩),
      List.getElem?_eq_none le_rfl, Option.bind_some, hreply]
    rfl
  · have hlen : (calls ++ [call]).length ≤ j := by
      rw [List.length_append, List.length_singleton]
      omega
    rw [completions, completions, List.getElem?_eq_none hlen,
      List.getElem?_eq_none (Nat.le_of_lt hgt)]

theorem completions_modify {calls : List Call} {i : ℕ} {call : Call}
    (hcall : calls[i]? = some call) (reply : Reply) :
    completions (calls.modify i fun call => { call with reply := some reply }) =
      Function.update (completions calls) i (some reply.response.buf) := by
  funext j
  by_cases hj : j = i
  · rw [hj, Function.update_self, completions,
      (getElem?_modify_eq_some hcall _).mpr (.inl ⟨rfl, rfl⟩)]
    rfl
  · rw [Function.update_of_ne hj, completions, completions,
      List.getElem?_modify_ne _ _ (Ne.symm hj)]

theorem flowQueues_congr {s s' : State} (hflows : s'.net.flows = s.net.flows)
    (hcalls : completions s'.calls = completions s.calls) : s'.flowQueues = s.flowQueues := by
  rw [State.flowQueues, State.flowQueues, hflows, hcalls]

/-- A refused call means nothing for the queues. -/
theorem queueEvent_of_refused {s : State} {sd : Int32} {addr : SocketAddress}
    (h : ∀ client address network phyAddr, s.net.clients sd = some client →
      addr ≠ .extended address network 1 phyAddr) (payload : Bytes) :
    queueEvent s (.sendto sd payload addr) = none := by
  cases addr with
  | basic address msgType tag => rfl
  | extended address network bindingId phyAddr =>
    by_cases hid : bindingId = 1
    · subst hid
      cases hclient : s.net.clients sd with
      | none => rw [queueEvent, if_pos rfl, hclient, Option.map_none]
      | some client => exact absurd rfl (h client address network phyAddr hclient)
    · rw [queueEvent, if_neg hid]

/-- In a steady run a step does to the queues what its event stands for. -/
theorem flowQueues_step {s s' : State} (hs : Attended s) {pec : Bytes → UInt8} {e : Event}
    (hsteady : Steady pec s e) (h : Network.step pec s e = some s') :
    s'.flowQueues = (queueEvent s e).toList.foldl FlowQueues.step s.flowQueues := by
  cases transition_of_step hs.wellFormed.poisoned_of_running h with
  | socket => rfl
  | bind sd address msgType tag => exact flowQueues_congr (flows_bind _ _ _ _ _) rfl
  | @register sd client payload address network phyAddr hclient hpoison =>
    have hevent : queueEvent s (.sendto sd payload (.extended address network 1 phyAddr)) =
        some (.register (address, client.tag % 8) s.calls.length) := by
      rw [queueEvent, if_pos rfl, hclient, Option.map_some]
    rw [hevent]
    refine FlowQueues.ext ?_ List.map_append (completions_concat _ rfl)
    have hqueue := KeyedFifo.queue_append_singleton flowKey s.net.flows
      (flowTag client address, s.calls.length)
    rw [flowKey_flowTag] at hqueue
    change (fun key => (KeyedFifo.queue flowKey (s.net.flows ++ [_]) key).map Prod.snd) = _
    rw [hqueue]
    exact KeyedFifo.map_enqueue Prod.snd _ _ _
  | refuse payload hrefused hstage hreply =>
    have hevent := queueEvent_of_refused (s := s)
      (fun client address network phyAddr hclient haddr =>
        absurd (hrefused client address network phyAddr hclient haddr)
          (by rw [hs.wellFormed.poisoned_of_running hs.running]; nofun)) payload
    rw [hevent]
    exact flowQueues_congr rfl (completions_concat _ hreply)
  | transmit hcall hstage hholder hsent => exact flowQueues_congr rfl (completions_set hcall _)
  | abort hcall hstage hholder hsent => exact absurd (hsteady _ hcall) hsent
  | resume hcall hstage hreply => exact flowQueues_congr rfl (completions_set hcall _)
  | drop hcall hopen => exact hsteady.elim
  | @discard answers id buf hdiscard =>
    have hnone : s.net.firstFlow buf = none := by
      refine hdiscard.resolve_left fun hstopped => ?_
      rw [hs.running] at hstopped
      cases hstopped
    by_cases hlen : buf.length < 8
    · rw [queueEvent, if_pos hlen]
      rfl
    · obtain ⟨hdr, hread, -, hfirst⟩ := firstFlow_eq hs.wellFormed (Nat.le_of_not_lt hlen)
      simp only [queueEvent, if_neg hlen, hread]
      by_cases howner : hdr.tagOwner = 0
      · rw [if_pos howner] at hfirst ⊢
        have hempty : s.flowQueues.queue (hdr.sourceEid, hdr.msgTag) = [] := by
          rw [hnone, ← KeyedFifo.head?_queue] at hfirst
          rw [s.queue_flowQueues, List.head?_eq_none_iff.mp hfirst.symm, List.map_nil]
        exact (FlowQueues.step_reply_of_nil hempty _).symm
      · rw [if_neg howner]
        rfl
  | @complete answers id buf recvTag flow hrunning hfirst htag hfind hopen =>
    have hlen : 8 ≤ buf.length := by
      refine hsteady.resolve_left fun hlt => ?_
      rw [firstFlow, if_pos hlt] at hfirst
      cases hfirst
    obtain ⟨hdr, hread, htag', hfirst'⟩ := firstFlow_eq hs.wellFormed hlen
    obtain rfl := Option.some.inj (htag.symm.trans htag')
    have howner : hdr.tagOwner = 0 := by
      by_contra hne
      rw [hfirst, if_neg hne] at hfirst'
      cases hfirst'
    rw [hfirst, if_pos howner] at hfirst'
    obtain ⟨call, -, -, -, hcall, -⟩ :=
      hs.wellFormed.flow flow (List.mem_of_find?_eq_some hfind)
    have hhead : (s.flowQueues.queue (hdr.sourceEid, hdr.msgTag)).head? = some flow.2 := by
      rw [s.queue_flowQueues, List.head?_map, KeyedFifo.head?_queue, ← hfirst', Option.map_some]
    have herase : s.net.flows.eraseP (matchesFlow
        ⟨hdr.destinationEid, hdr.sourceEid, hdr.msgTag, hdr.tagOwner != 0⟩) =
        s.net.flows.eraseP fun flow => flowKey flow = (hdr.sourceEid, hdr.msgTag) := by
      refine KeyedFifo.eraseP_congr fun other hother => ?_
      rw [matchesFlow_eq hs.wellFormed _ hother, howner]
      rfl
    simp only [queueEvent, if_neg (Nat.not_lt.mpr hlen), hread, if_pos howner, Option.toList_some,
      List.foldl_cons, List.foldl_nil, FlowQueues.step_reply_of_cons hhead]
    refine FlowQueues.ext ?_ (KeyedFifo.map_eraseP_eq_erase hs.wellFormed.nodup hfind)
      (completions_modify hcall _)
    simp only [State.flowQueues, herase, KeyedFifo.queue_eraseP]
    exact KeyedFifo.map_dequeue Prod.snd _ _
  | @crash answers id buf recvTag flow hrunning hfirst htag hfind hclosed =>
    rw [hs.attended flow (List.mem_of_find?_eq_some hfind)] at hclosed
    cases hclosed

theorem attended_run {pec : Bytes → UInt8} {binding : SmbusNetDevBinding} {es : List Event}
    {s : State} (h : StepSystem.Run (step pec) (KeepsCallers pec) (init binding) es s) :
    Attended s :=
  h.invariant (.init binding) fun _ _ _ hs hkeeps hstep => hs.step hkeeps hstep

/-- A call in a queue is in flight. -/
theorem mem_inFlight_of_head? {s : State} {key : UInt8 × UInt8} {i : ℕ}
    (h : (s.flowQueues.queue key).head? = some i) : i ∈ s.flowQueues.inFlight := by
  have hmem : i ∈ s.flowQueues.queue key := List.mem_of_head? h
  rw [s.queue_flowQueues] at hmem
  obtain ⟨flow, hflow, rfl⟩ := List.mem_map.mp hmem
  exact List.mem_map_of_mem (List.mem_of_mem_filter hflow)

/-- A call in flight has not been completed. -/
theorem completed_of_mem_inFlight {s : State} (hs : WellFormed s) {i : ℕ}
    (h : i ∈ s.flowQueues.inFlight) : s.flowQueues.completed i = none := by
  obtain ⟨flow, hflow, rfl⟩ := List.mem_map.mp h
  obtain ⟨call, -, -, -, hcall, hreply, -⟩ := hs.flow flow hflow
  change completions s.calls flow.2 = none
  rw [completions, hcall, Option.bind_some, hreply, Option.map_none]

/-- Nothing is lost in a step: the calls in flight or completed afterwards are those from before and
the one that registers. -/
theorem mem_step_iff (s : State) (e : FlowQueues.Event) (i : ℕ) :
    (i ∈ (s.flowQueues.step e).inFlight ∨ (s.flowQueues.step e).completed i ≠ none) ↔
      (i ∈ s.flowQueues.inFlight ∨ s.flowQueues.completed i ≠ none) ∨
        ∃ key, e = .register key i := by
  cases e with
  | register key call =>
    simp only [FlowQueues.step, List.mem_append, List.mem_singleton]
    constructor
    · rintro ((hmem | rfl) | hdone)
      · exact .inl (.inl hmem)
      · exact .inr ⟨key, rfl⟩
      · exact .inl (.inr hdone)
    · rintro ((hmem | hdone) | ⟨key', he⟩)
      · exact .inl (.inl hmem)
      · exact .inr hdone
      · exact .inl (.inr (FlowQueues.Event.register.inj he).2.symm)
  | reply key buf =>
    have hright : (¬ ∃ key', FlowQueues.Event.reply key buf = .register key' i) := nofun
    cases hhead : (s.flowQueues.queue key).head? with
    | none =>
      rw [FlowQueues.step_reply_of_nil (List.head?_eq_none_iff.mp hhead), or_iff_left hright]
    | some call =>
      have hcall := mem_inFlight_of_head? hhead
      rw [FlowQueues.step_reply_of_cons hhead, or_iff_left hright]
      by_cases hi : i = call
      · subst hi
        simp only [Function.update_self]
        exact ⟨fun _ => .inl hcall, fun _ => .inr nofun⟩
      · simp only [Function.update_of_ne hi, List.mem_erase_of_ne hi]

/-- A completed call keeps its bytes. -/
theorem completed_step {s : State} (hs : WellFormed s) (e : FlowQueues.Event) {i : ℕ}
    {buf : Bytes} (h : s.flowQueues.completed i = some buf) :
    (s.flowQueues.step e).completed i = some buf := by
  cases e with
  | register key call => exact h
  | reply key buf' =>
    cases hhead : (s.flowQueues.queue key).head? with
    | none => rwa [FlowQueues.step_reply_of_nil (List.head?_eq_none_iff.mp hhead)]
    | some call =>
      have hne : i ≠ call := by
        rintro rfl
        rw [completed_of_mem_inFlight hs (mem_inFlight_of_head? hhead)] at h
        cases h
      rw [FlowQueues.step_reply_of_cons hhead]
      simpa only [Function.update_of_ne hne] using h

/-- The operations on the queues that a run stands for. -/
def queueTrace (pec : Bytes → UInt8) (binding : SmbusNetDevBinding) (es : List Event) :
    List FlowQueues.Event :=
  StepSystem.trace (step pec) (fun s e => (queueEvent s e).toList) (init binding) es

/-- The calls that have registered are those in flight and those completed. -/
theorem register_mem_queueTrace_iff {pec : Bytes → UInt8} {binding : SmbusNetDevBinding}
    {es : List Event} {s : State}
    (h : StepSystem.Run (step pec) (Steady pec) (init binding) es s) (i : ℕ) :
    (∃ key, .register key i ∈ queueTrace pec binding es) ↔
      i ∈ s.flowQueues.inFlight ∨ s.flowQueues.completed i ≠ none := by
  induction h with
  | nil =>
    constructor
    · rintro ⟨key, hmem⟩
      cases hmem
    · rintro (hmem | hne)
      · cases hmem
      · exact absurd rfl hne
  | @snoc es s s' e hrun hstep hsteady ih =>
    have hs := attended_run (hrun.mono fun _ _ => Steady.keepsCallers)
    rw [queueTrace] at ih ⊢
    rw [flowQueues_step hs hsteady hstep, hrun.trace_snoc]
    cases hevent : queueEvent s e with
    | none => simpa only [Option.toList_none, List.append_nil, List.foldl_nil] using ih
    | some a =>
      simp only [Option.toList_some, List.foldl_cons, List.foldl_nil,
        mem_step_iff, ← ih, List.mem_append, List.mem_singleton, exists_or]
      exact or_congr Iff.rfl (exists_congr fun key => eq_comm)

/-- **The flow list refines a family of queues.** In every run in which callers stay alive and
transmissions succeed, the flows in flight and the completed calls are what the queue operations of
the events make of them: a call joins the queue of its destination and its tag modulo 8, a reply
completes the oldest call of its queue with the bytes behind the SMBus header, and any other
datagram changes nothing. Every registered call is either in flight, once, or completed, and a
completed call is not completed again. -/
theorem flows_refine_queues (pec : Bytes → UInt8) (binding : SmbusNetDevBinding)
    (es : List Event) (s : State)
    (h : StepSystem.Run (step pec) (Steady pec) (init binding) es s) :
    s.flowQueues = (queueTrace pec binding es).foldl FlowQueues.step .empty ∧
    (∀ e s', Steady pec s e → step pec s e = some s' →
      s'.flowQueues = (queueEvent s e).toList.foldl FlowQueues.step s.flowQueues ∧
      ∀ i buf, s.flowQueues.completed i = some buf → s'.flowQueues.completed i = some buf) ∧
    s.flowQueues.inFlight.Nodup ∧
    ∀ i, ((∃ key, .register key i ∈ queueTrace pec binding es) ↔
        i ∈ s.flowQueues.inFlight ∨ s.flowQueues.completed i ≠ none) ∧
      (i ∈ s.flowQueues.inFlight → s.flowQueues.completed i = none) := by
  have hs := attended_run (h.mono fun _ _ => Steady.keepsCallers)
  refine ⟨?_, fun e s' hsteady hstep => ?_, hs.wellFormed.nodup, fun i =>
    ⟨register_mem_queueTrace_iff h i, completed_of_mem_inFlight hs.wellFormed⟩⟩
  · exact h.refines State.flowQueues (Attended.init binding)
      (fun _ _ _ hs hsteady hstep => hs.step hsteady.keepsCallers hstep)
      fun _ _ _ hs hsteady hstep => flowQueues_step hs hsteady hstep
  · have hqueues := flowQueues_step hs hsteady hstep
    refine ⟨hqueues, fun i buf hdone => ?_⟩
    rw [hqueues]
    cases queueEvent s e with
    | none => exact hdone
    | some a => exact completed_step hs.wellFormed a hdone

/-- A client with tag 9 gets the reply that carries tag 1. -/
theorem flows_refine_queues_tag_nine :
    ∃ es s, StepSystem.Run (step crc8) (Steady crc8) (init sampleBinding) es s ∧
      s.flowQueues = (queueTrace crc8 sampleBinding es).foldl FlowQueues.step .empty ∧
      s.flowQueues.completed 0 = some [0x01, 0x08, 0x0A, 0xC1, 0x00, 0x00, 0x02] := by
  have hopen : StepSystem.Run (step crc8) (Steady crc8) (init sampleBinding) openTwoSockets
      ⟨twoSockets [], [], none, true, [], []⟩ :=
    run_openTwoSockets (fun _ => trivial) fun _ _ _ _ _ => trivial
  have hsendto : step crc8 ⟨twoSockets [], [], none, true, [], []⟩
      (.sendto 0 [0x00, 0x80, 0x02] (.extended 0x0A 1 1 0x25)) =
      some ⟨twoSockets [(⟨0x0A, 0x08, 1, true⟩, 0)],
        [⟨[0x01, 0x0A, 0x08, 0xC9, 0x00, 0x80, 0x02], 0x25, .locking, none⟩], none, true, [],
        []⟩ := rfl
  have htransmit : step crc8 ⟨twoSockets [(⟨0x0A, 0x08, 1, true⟩, 0)],
      [⟨[0x01, 0x0A, 0x08, 0xC9, 0x00, 0x80, 0x02], 0x25, .locking, none⟩], none, true, [], []⟩
      (.transmit 0 (.ok 12, .ok 12)) = some ⟨twoSockets [(⟨0x0A, 0x08, 1, true⟩, 0)],
        [⟨[0x01, 0x0A, 0x08, 0xC9, 0x00, 0x80, 0x02], 0x25, .waiting, none⟩], some 0, true,
        [0, 0], []⟩ := rfl
  have hreceive : step crc8 ⟨twoSockets [(⟨0x0A, 0x08, 1, true⟩, 0)],
      [⟨[0x01, 0x0A, 0x08, 0xC9, 0x00, 0x80, 0x02], 0x25, .waiting, none⟩], some 0, true,
      [0, 0], []⟩ (.receive (some 0) 1
        [0x20, 0x0F, 0x08, 0x4B, 0x01, 0x08, 0x0A, 0xC1, 0x00, 0x00, 0x02]) =
      some ⟨twoSockets [], [⟨[0x01, 0x0A, 0x08, 0xC9, 0x00, 0x80, 0x02], 0x25, .waiting,
        some ⟨some 0, .receive (.extended 0 1 1 0)
          [0x01, 0x08, 0x0A, 0xC1, 0x00, 0x00, 0x02]⟩⟩], some 0, true, [0, 0], [0]⟩ := rfl
  have htransmits : Steady crc8 ⟨twoSockets [(⟨0x0A, 0x08, 1, true⟩, 0)],
      [⟨[0x01, 0x0A, 0x08, 0xC9, 0x00, 0x80, 0x02], 0x25, .locking, none⟩], none, true, [], []⟩
      (.transmit 0 (.ok 12, .ok 12)) := by
    intro call hcall
    obtain rfl := Option.some.inj hcall
    exact ⟨rfl, by decide, nofun, rfl⟩
  have hrun := ((hopen.snoc hsendto trivial).snoc htransmit htransmits).snoc hreceive
    (Or.inr (by decide))
  exact ⟨_, _, hrun, (flows_refine_queues crc8 sampleBinding _ _ hrun).1, rfl⟩

end Network

end MctpEmu
