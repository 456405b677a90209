import MctpEmu.Library.Potential
import MctpEmu.Network.Polling

/-!
# Progress of a network

A call of `sendto` holds the lock of the binding from its transmission until it has its response.
So the calls of a network have their exchanges one after the other, and a network comes to rest only
when nobody has anything to do for it, or when the call with the lock waits for a response that has
not been read.

## Main definitions

* `Network.Polling.Event.isOwn`: a step that a network takes without its surroundings.
* `Network.Polling.AtRest`: no such step is possible.
* `Network.Polling.Drained`, `Network.Polling.AwaitsResponse`: what a network at rest looks like.
* `Network.Polling.work`: a bound on the steps that a network has ahead of it.

## Main results

* `Network.exchanges_exclusive`: while a call waits for its response, no whole frame is sent and no
  other call returns.
* `Network.Polling.atRest_iff`: the states in which a network is at rest.
* `Network.Polling.steps_le`: the steps of a run, against its calls and its datagrams.
* `Network.Polling.response_returned`: a response that is read is returned when the network rests.
-/

namespace MctpEmu

namespace Network

open StepSystem

/-! ### Exchanges -/

section Exchanges

variable {pec : Bytes → UInt8} {s s' : State} {i : ℕ}

/-- A call that has ended does not come back. -/
theorem closed_of_step (hs : WellFormed s) {e : Event} (h : step pec s e = some s') {call : Call}
    (hcall : s.calls[i]? = some call) (hclosed : call.isOpen = false) :
    ∃ call', s'.calls[i]? = some call' ∧ call'.isOpen = false := by
  obtain ⟨hlt, -⟩ := List.getElem?_eq_some_iff.mp hcall
  have hlt' := Nat.lt_of_lt_of_le hlt (length_calls_le_of_step hs h)
  refine ⟨s'.calls[i], List.getElem?_eq_getElem hlt', ?_⟩
  rcases exists_call_of_step hs h (List.getElem?_eq_getElem hlt') with
    ⟨-, hnone, -⟩ | ⟨c, hc, -, hstage⟩
  · rw [hcall] at hnone
    cases hnone
  · obtain rfl := Option.some.inj (hc.symm.trans hcall)
    rcases hstage with hstage | ⟨hopen, -⟩
    · rw [Call.isOpen, hstage]
      exact hclosed
    · cases hclosed.symm.trans hopen

/-- A call waits for its response with the lock, and it is as if no other call had gone on: the
whole frames that were sent and the calls that have returned are those of `s`. -/
structure Exclusively (s : State) (i : ℕ) (t : State) : Prop where
  holder : t.bindingHolder = some i
  sent : t.sent = s.sent
  returned : ∀ (j : ℕ) (call : Call) (addr : SocketAddress) (buf : Bytes),
    t.calls[j]? = some call → call.stage = .returned addr buf →
    ∃ c, s.calls[j]? = some c ∧ c.stage = .returned addr buf

/-- Only the end of the call changes that. -/
theorem Exclusively.step {t t' : State} (ht : WellFormed t) (hx : Exclusively s i t) {e : Event}
    (h : Network.step pec t e = some t') :
    (∃ call, t'.calls[i]? = some call ∧ call.isOpen = false) ∨ Exclusively s i t' := by
  have hheld : t.bindingHolder ≠ none := by
    rw [hx.holder]
    exact Option.some_ne_none i
  have hconcat {call : Call} (hstage : ∀ addr buf, call.stage ≠ .returned addr buf) (j : ℕ)
      (c : Call) (addr : SocketAddress) (buf : Bytes) (hc : (t.calls ++ [call])[j]? = some c)
      (hret : c.stage = .returned addr buf) :
      ∃ c, s.calls[j]? = some c ∧ c.stage = .returned addr buf := by
    rcases KeyedFifo.getElem?_concat_eq_some.mp hc with hc | ⟨-, rfl⟩
    · exact hx.returned j c addr buf hc hret
    · exact absurd hret (hstage addr buf)
  cases transition_of_step ht.poisoned_of_running h with
  | socket | bind | discard | crash => exact .inr ⟨hx.holder, hx.sent, hx.returned⟩
  | register payload address network phyAddr =>
    exact .inr ⟨hx.holder, hx.sent, hconcat fun _ _ => Stage.noConfusion⟩
  | refuse payload hrefused hstage =>
    refine .inr ⟨hx.holder, hx.sent, hconcat fun addr buf hret => ?_⟩
    rcases hstage with ⟨e, he⟩ | he <;> rw [hret] at he <;> cases he
  | transmit hcall hstage hfree | abort hcall hstage hfree => exact absurd hfree hheld
  | @resume j call reply hcall hstage hreply =>
    -- Only the call with the lock waits.
    obtain rfl := Option.some.inj (((ht.waiting j call hcall).mp hstage).symm.trans hx.holder)
    exact .inl ⟨_, (getElem?_set_eq_some hcall _).mpr (.inl ⟨rfl, rfl⟩), rfl⟩
  | @drop j call hcall hopen =>
    by_cases hji : j = i
    · subst hji
      exact .inl ⟨_, (getElem?_set_eq_some hcall _).mpr (.inl ⟨rfl, rfl⟩), rfl⟩
    · refine .inr ⟨?_, hx.sent, fun k c addr buf hc hret => ?_⟩
      · refine (if_neg ?_).trans hx.holder
        rw [hx.holder]
        exact fun heq => hji (Option.some.inj heq).symm
      · rcases (getElem?_set_eq_some hcall _).mp hc with ⟨-, rfl⟩ | ⟨-, hc⟩
        · cases hret
        · exact hx.returned k c addr buf hc hret
  | @complete answers id buf recvTag flow hrunning hfirst htag hfind hopen =>
    obtain ⟨call, -, -, -, hcall, -⟩ := ht.flow flow (List.mem_of_find?_eq_some hfind)
    refine .inr ⟨hx.holder, hx.sent, fun k c addr bytes hc hret => ?_⟩
    rcases (getElem?_modify_eq_some hcall _).mp hc with ⟨rfl, rfl⟩ | ⟨-, hc⟩
    · exact hx.returned _ call addr bytes hcall hret
    · exact hx.returned k c addr bytes hc hret

/-- **One exchange at a time.** From the transmission of a call until the call has ended, no
further whole frame is sent and no other call returns. -/
theorem exchanges_exclusive {binding : SmbusNetDevBinding} {C D : State → Event → Prop}
    {es es' : List Event} (h : Run (step pec) C (init binding) es s)
    (hholder : s.bindingHolder = some i) (h' : Run (step pec) D s es' s') :
    (∃ call, s'.calls[i]? = some call ∧ call.isOpen = false) ∨ Exclusively s i s' := by
  have hinit : Exclusively s i s := ⟨hholder, rfl, fun j call _ _ hcall hret => ⟨call, hcall, hret⟩⟩
  refine (h'.invariant (I := fun t => WellFormed t ∧
    ((∃ call, t.calls[i]? = some call ∧ call.isOpen = false) ∨ Exclusively s i t))
    ⟨wellFormed_run h, .inr hinit⟩ ?_).2
  rintro t e t' ⟨ht, ⟨call, hcall, hclosed⟩ | hx⟩ - hstep
  · exact ⟨ht.step hstep, .inl (closed_of_step ht hstep hcall hclosed)⟩
  · exact ⟨ht.step hstep, hx.step ht hstep⟩

/-- A second call waits for the lock while the first one waits for its response. -/
theorem exchanges_exclusive_sampleCalls : ∃ s s' : State,
    Run (step crc8) (fun _ _ => True) s
        [.sendto 0 [0x00, 0x80, 0x05] (.extended 0x0A 1 1 0x25)] s' ∧
      ((∃ call, s'.calls[0]? = some call ∧ call.isOpen = false) ∨ Exclusively s 0 s') := by
  obtain ⟨s, s', hrun, hrun', hholder⟩ : ∃ s s' : State,
      Run (step crc8) (fun _ _ => True) (init sampleBinding)
        [.socket, .bind 0 0x08 0 9, .sendto 0 [0x00, 0x80, 0x02] (.extended 0x0A 1 1 0x25),
          .transmit 0 (.ok 12, .ok 12)] s ∧
      Run (step crc8) (fun _ _ => True) s
        [.sendto 0 [0x00, 0x80, 0x05] (.extended 0x0A 1 1 0x25)] s' ∧
      s.bindingHolder = some 0 :=
    ⟨_, _, .cons rfl trivial (.cons rfl trivial (.cons rfl trivial (.cons rfl trivial .nil))),
      .cons rfl trivial .nil, rfl⟩
  exact ⟨s, s', hrun', exchanges_exclusive hrun hholder hrun'⟩

end Exchanges

namespace Polling

/-! ### Rest -/

/-- A step that a network takes without its surroundings: a call that transmits or returns, a task
that hands over what it has read, or the receive loop. -/
def Event.isOwn : Event → Bool
  | .call (.transmit _ _) | .call (.resume _) | .handOver _ | .handle _ => true
  | _ => false

/-- The network can take no step of its own. -/
def AtRest (pec : Bytes → UInt8) (s : Polling) : Prop :=
  ∀ e, e.isOwn = true → step pec s e = none

/-- No datagram is in the hands of a task or in the channel. -/
def Drained (s : Polling) : Prop := s.inHands = [] ∧ ∀ c, s.channel = some c → c.queue = []

/-- Every call has ended, or there is no response for the one that holds the lock. -/
def AwaitsResponse (s : Polling) : Prop :=
  (∀ call ∈ s.net.calls, call.isOpen = false) ∨
    ∃ i call, s.net.bindingHolder = some i ∧ s.net.calls[i]? = some call ∧ call.reply = none

/-- The tasks that wait for a slot. -/
def waiters (s : Polling) : ℕ := (s.pollers.map fun poller => poller.waits.toNat).sum

/-- What holds in every run: the tasks that wait for a slot are those that the channel knows. -/
structure Serving (s : Polling) : Prop where
  consistent : Consistent s
  waiters_eq : ∀ c, s.channel = some c → c.reserved + c.waiting = s.waiters

section Rest

variable {pec : Bytes → UInt8} {binding : SmbusNetDevBinding} {s s' : Polling}

/-- A task is exchanged, as far as the wait for a slot goes. -/
theorem waiters_set {k : ℕ} {poller : Poller} (h : s.pollers[k]? = some poller)
    (poller' : Poller) :
    ((s.pollers.set k poller').map fun poller => poller.waits.toNat).sum + poller.waits.toNat =
      s.waiters + poller'.waits.toNat :=
  sum_map_set h poller'

theorem Serving.init : Serving (Polling.init binding) where
  consistent := .init
  waiters_eq c hc := by
    obtain rfl := Option.some.inj hc
    rfl

/-- Every step keeps the invariant. -/
theorem Serving.step (hs : Serving s) {e : Event} (h : Polling.step pec s e = some s') :
    Serving s' := by
  refine ⟨hs.consistent.step h, fun c' hc' => ?_⟩
  cases transition_of_step h with
  | call | refuse | ignore => exact hs.waiters_eq c' hc'
  | add =>
    rw [hs.waiters_eq c' hc', waiters, waiters, List.map_append, List.sum_append]
    rfl
  | @read k networkId bytes hpoller =>
    have hset := waiters_set hpoller (.handing (.receive networkId (bytes.take 4096)))
    exact (hs.waiters_eq c' hc').trans hset.symm
  | recvError hpoller =>
    have hset := waiters_set hpoller .panicked
    exact (hs.waiters_eq c' hc').trans hset.symm
  | discard hpoller hcmd hchannel =>
    rw [hchannel] at hc'
    cases hc'
  | @block k cmd c channel hpoller hchannel hroom hqueue hsenders =>
    obtain rfl := Option.some.inj hc'
    have hset := waiters_set hpoller (.blocked cmd)
    rw [hsenders, hs.waiters_eq c hchannel]
    exact hset.symm
  | @accept k poller cmd c channel hpoller hcmd hchannel hqueue hsenders =>
    obtain rfl := Option.some.inj hc'
    have hset := waiters_set hpoller (.reading cmd.id)
    rw [hs.waiters_eq c hchannel] at hsenders
    exact Nat.add_right_cancel (hsenders.trans hset.symm)
  | @handle answers cmd c channel net hchannel hqueue hnet hsenders =>
    dsimp only at hc'
    split_ifs at hc'
    obtain rfl := Option.some.inj hc'
    rw [hsenders, hs.waiters_eq c hchannel]
    rfl

theorem serving_run {C : Polling → Event → Prop} {es : List Event}
    (h : Run (step pec) C (Polling.init binding) es s) : Serving s :=
  h.invariant .init fun _ _ _ hs _ hstep => hs.step hstep

/-- The receive loop takes every datagram. -/
theorem exists_step_receive (net : State) (answers : Option ℕ) (id : UInt64) (buf : Bytes) :
    ∃ net', Network.step pec net (.receive answers id buf) = some net' := by
  by_cases hrunning : net.handlerRunning = true
  · simp only [Network.step, if_pos hrunning]
    split <;> exact ⟨_, rfl⟩
  · simp only [Network.step, if_neg hrunning]
    exact ⟨_, rfl⟩

/-- A network at rest has nothing in its channel. -/
theorem AtRest.queue_eq_nil (h : AtRest pec s) {c : BoundedChannel NetworkBindingCallbackMsg 32}
    (hchannel : s.channel = some c) : c.queue = [] := by
  have hhandle := h (.handle none) rfl
  rw [Polling.step, handle, hchannel] at hhandle
  cases hrecv : c.recv with
  | none => exact BoundedChannel.recv_eq_none_iff.mp hrecv
  | some r =>
    obtain ⟨net', hnet⟩ := @exists_step_receive pec s.net none r.1.id r.1.buf
    simp only [hrecv, hnet, Option.map_some] at hhandle
    cases hhandle

/-- A task with a datagram can hand it over, or waits for a slot of a channel that is not empty. -/
theorem AtRest.datagram_eq_none (hs : Serving s) (h : AtRest pec s) {k : ℕ} {poller : Poller}
    (hpoller : s.pollers[k]? = some poller) : poller.datagram = none := by
  have hhandOver := h (.handOver k) rfl
  rw [Polling.step, handOver, hpoller] at hhandOver
  cases poller with
  | reading | panicked => rfl
  | handing cmd =>
    cases hchannel : s.channel with
    | none =>
      simp only [hchannel] at hhandOver
      cases hhandOver
    | some c =>
      simp only [hchannel] at hhandOver
      cases hsend : c.trySend cmd with
      | some channel =>
        simp only [hsend] at hhandOver
        cases hhandOver
      | none =>
        obtain ⟨channel, hwait⟩ := BoundedChannel.exists_wait_of_trySend_eq_none hsend
        simp only [hsend, hwait] at hhandOver
        cases hhandOver
  | blocked cmd =>
    cases hchannel : s.channel with
    | none =>
      simp only [hchannel] at hhandOver
      cases hhandOver
    | some c =>
      simp only [hchannel, Option.map_eq_none_iff, BoundedChannel.fill_eq_none_iff] at hhandOver
      -- No slot is reserved, so the task waits for a full channel; but this one is empty.
      have hset := waiters_set hpoller (.reading cmd.id)
      have hwaiters := hs.waiters_eq c hchannel
      simp only [Poller.waits, Bool.toNat_true, Bool.toNat_false] at hset
      have hfull := c.used_eq (by omega)
      rw [h.queue_eq_nil hchannel, hhandOver] at hfull
      cases hfull

theorem AtRest.drained (hs : Serving s) (h : AtRest pec s) : s.Drained := by
  refine ⟨List.filterMap_eq_nil_iff.mpr fun poller hpoller => ?_, fun c => h.queue_eq_nil⟩
  obtain ⟨k, hk⟩ := List.getElem?_of_mem hpoller
  exact h.datagram_eq_none hs hk

/-- A call that has its response returns before the network is at rest. -/
theorem AtRest.reply_eq_none (h : AtRest pec s) {i : ℕ} {call : Call}
    (hcall : s.net.calls[i]? = some call) (hstage : call.stage = .waiting) :
    call.reply = none := by
  have hresume := h (.call (.resume i)) rfl
  cases hreply : call.reply with
  | none => rfl
  | some reply =>
    simp only [Polling.step, isReceive, Network.step, hcall, hstage, hreply, Bool.false_eq_true,
      if_false, Option.map_some] at hresume
    cases hresume

theorem AtRest.awaitsResponse (hs : WellFormed s.net) (h : AtRest pec s) : s.AwaitsResponse := by
  cases hholder : s.net.bindingHolder with
  | some i =>
    obtain ⟨call, hcall⟩ := hs.holder i hholder
    exact .inr ⟨i, call, hholder, hcall,
      h.reply_eq_none hcall ((hs.waiting i call hcall).mpr hholder)⟩
  | none =>
    refine .inl fun call hmem => ?_
    obtain ⟨i, hcall⟩ := List.getElem?_of_mem hmem
    -- An open call waits for the lock, which is free, or holds it.
    by_contra hopen
    rcases call.isOpen_iff.mp (Bool.not_eq_false _ ▸ hopen) with hstage | hstage
    · have htransmit := h (.call (.transmit i (.ok 0, .ok 0))) rfl
      simp only [Polling.step, isReceive, Network.step, hcall, hstage, hholder, and_self, if_true,
        Bool.false_eq_true, if_false, Option.map_eq_none_iff] at htransmit
      split at htransmit <;> cases htransmit
    · have hsome := (hs.waiting i call hcall).mp hstage
      rw [hholder] at hsome
      cases hsome

/-- A drained network whose calls wait for a response is at rest. -/
theorem atRest_of_drained (hs : WellFormed s.net) (hdrained : s.Drained)
    (hawaits : s.AwaitsResponse) : AtRest pec s := by
  -- No call waits for a free lock, and none holds it with its response.
  have hlocking {i : ℕ} {call : Call} (hcall : s.net.calls[i]? = some call) :
      ¬ (call.stage = .locking ∧ s.net.bindingHolder = none) := by
    rintro ⟨hstage, hfree⟩
    rcases hawaits with hclosed | ⟨j, c, hholder, -⟩
    · cases (hclosed call (List.mem_of_getElem? hcall)).symm.trans
        (call.isOpen_iff.mpr (.inl hstage))
    · cases hfree.symm.trans hholder
  have hwaiting {i : ℕ} {call : Call} (hcall : s.net.calls[i]? = some call)
      (hstage : call.stage = .waiting) : call.reply = none := by
    rcases hawaits with hclosed | ⟨j, c, hholder, hc, hnone⟩
    · cases (hclosed call (List.mem_of_getElem? hcall)).symm.trans
        (call.isOpen_iff.mpr (.inr hstage))
    · obtain rfl := Option.some.inj (((hs.waiting i call hcall).mp hstage).symm.trans hholder)
      obtain rfl := Option.some.inj (hcall.symm.trans hc)
      exact hnone
  by_contra hrest
  obtain ⟨e, he, hstep⟩ : ∃ e, Event.isOwn e = true ∧ Polling.step pec s e ≠ none := by
    simpa only [AtRest, not_forall, exists_prop] using hrest
  obtain ⟨s', hstep⟩ := Option.ne_none_iff_exists'.mp hstep
  have hhands {k : ℕ} {poller : Poller} {cmd : NetworkBindingCallbackMsg}
      (hpoller : s.pollers[k]? = some poller) (hcmd : poller.message = some cmd) : False := by
    have hnone := List.filterMap_eq_nil_iff.mp hdrained.1 poller (List.mem_of_getElem? hpoller)
    cases hnone.symm.trans (Poller.datagram_of_message hcmd)
  cases transition_of_step hstep with
  | @call e net hreceive hnet =>
    cases Network.transition_of_step hs.poisoned_of_running hnet with
    | transmit hcall hstage hfree | abort hcall hstage hfree => exact hlocking hcall ⟨hstage, hfree⟩
    | resume hcall hstage hreply => cases (hwaiting hcall hstage).symm.trans hreply
    | _ => cases he
  | discard hpoller hcmd | accept hpoller hcmd => exact hhands hpoller hcmd
  | block hpoller => exact hhands hpoller rfl
  | handle hchannel hqueue =>
    rw [hdrained.2 _ hchannel] at hqueue
    cases hqueue
  | _ => cases he

/-- In every state of every run, the network can take no step of its own exactly when its tasks and
its channel have no datagram, and every call has ended or the one that holds the lock has no
response: the network never blocks itself, but a response that does not come blocks it. -/
theorem atRest_iff {C : Polling → Event → Prop} {es : List Event}
    (h : Run (step pec) C (Polling.init binding) es s) :
    AtRest pec s ↔ s.Drained ∧ s.AwaitsResponse := by
  have hs := serving_run h
  constructor
  · intro hrest
    exact ⟨hrest.drained hs, hrest.awaitsResponse hs.consistent.net⟩
  · rintro ⟨hdrained, hawaits⟩
    exact atRest_of_drained hs.consistent.net hdrained hawaits

/-- A call has transmitted, and nothing has arrived since. -/
theorem run_sampleWaiting {C : Polling → Event → Prop} (hC : ∀ s e, C s e) :
    ∃ s, Run (step crc8) C (Polling.init sampleBinding) (sampleExchange.take 5) s ∧ s.inHands = [] ∧
      s.channel = some (.empty _ 32) ∧ s.net.bindingHolder = some 0 ∧
        s.net.calls = [sampleCall 0x08 0x02 .waiting none] ∧
          s.net.net.firstFlow (sampleReply 0x08 0x02) = some (⟨0x0A, 0x08, 1, true⟩, 0) :=
  ⟨_, .cons rfl (hC _ _) (.cons rfl (hC _ _) (.cons rfl (hC _ _) (.cons rfl (hC _ _)
    (.cons rfl (hC _ _) .nil)))), rfl, rfl, rfl, rfl, rfl⟩

/-- There the network is at rest. -/
theorem atRest_iff_sampleWaiting : ∃ s : Polling,
    Run (step crc8) (fun _ _ => True) (Polling.init sampleBinding) (sampleExchange.take 5) s ∧
      AtRest crc8 s := by
  obtain ⟨s, hrun, hhands, hchannel, hholder, hcalls, -⟩ :=
    @run_sampleWaiting (fun _ _ => True) fun _ _ => trivial
  refine ⟨s, hrun, (atRest_iff hrun).mpr ⟨⟨hhands, fun c hc => ?_⟩, .inr
    ⟨0, sampleCall 0x08 0x02 .waiting none, hholder, ?_, rfl⟩⟩⟩
  · obtain rfl := Option.some.inj (hchannel.symm.trans hc)
    rfl
  · rw [hcalls]
    rfl

end Rest

/-! ### Work -/

/-- The steps that a call has ahead of it. -/
def stageWork : Stage → ℕ
  | .locking => 2
  | .waiting => 1
  | .returned _ _ | .failed _ | .panicked | .dropped => 0

/-- The steps that a datagram of a task brings: it may have to wait for a slot. -/
def pollerWork : Poller → ℕ
  | .handing _ => 3
  | .blocked _ => 2
  | .reading _ | .panicked => 0

/-- The steps that the calls have ahead of them. -/
def callsWork (net : State) : ℕ := (net.calls.map fun call => stageWork call.stage).sum

/-- The steps that the network has ahead of it. -/
def work (s : Polling) : ℕ :=
  callsWork s.net + (s.pollers.map pollerWork).sum + s.channel.elim 0 fun c => c.queue.length

/-- A call of `sendto`. -/
def Event.isSendto : Event → Bool
  | .call (.sendto _ _ _) => true
  | _ => false

/-- A datagram that arrives. -/
def Event.isArrival : Event → Bool
  | .arrive _ _ => true
  | _ => false

/-- The steps that an event brings. -/
def Event.credit (e : Event) : ℕ := 2 * e.isSendto.toNat + 3 * e.isArrival.toNat

section Work

variable {pec : Bytes → UInt8} {s s' : Polling}

/-- A response does not change the steps that a call has ahead of it. -/
theorem map_stageWork_modify (calls : List Call) (i : ℕ) (reply : Reply) :
    ((calls.modify i fun call => { call with reply := some reply }).map
      fun call => stageWork call.stage) = calls.map fun call => stageWork call.stage := by
  refine List.ext_getElem? fun j => ?_
  rw [List.getElem?_map, List.getElem?_map, List.getElem?_modify]
  cases calls[j]? with
  | none => rfl
  | some call => by_cases hij : i = j <;> simp [hij]

/-- A step of the calls is paid by the call that makes it, or by a new call. -/
theorem callsWork_of_step {net net' : State} (hs : WellFormed net) {e : Network.Event}
    (h : Network.step pec net e = some net') :
    (Event.call e).isOwn.toNat + callsWork net' ≤ (Event.call e).credit + callsWork net := by
  have hset {i : ℕ} {call : Call} (hcall : net.calls[i]? = some call) (stage : Stage) :
      ((net.calls.set i (call.goto stage)).map fun call => stageWork call.stage).sum +
        stageWork call.stage = callsWork net + stageWork stage := sum_map_set hcall _
  have hconcat (call : Call) :
      ((net.calls ++ [call]).map fun call => stageWork call.stage).sum =
        callsWork net + stageWork call.stage := by
    rw [List.map_append, List.sum_append, List.map_singleton, List.sum_singleton]
    rfl
  -- A call that goes on has fewer steps ahead of it.
  have hpaid {i : ℕ} {call : Call} (hcall : net.calls[i]? = some call) {stage : Stage}
      (hlt : stageWork stage < stageWork call.stage) :
      1 + ((net.calls.set i (call.goto stage)).map fun call => stageWork call.stage).sum ≤
        0 + callsWork net := by
    have hsum := hset hcall stage
    omega
  cases Network.transition_of_step hs.poisoned_of_running h with
  | socket | bind | discard | crash => exact le_rfl
  | register =>
    rw [callsWork, hconcat, stageWork]
    change 0 + (callsWork net + 2) ≤ 2 + callsWork net
    omega
  | refuse payload hrefused hstage =>
    rw [callsWork, hconcat]
    rcases hstage with ⟨e, he⟩ | he <;>
    · rw [he]
      exact Nat.add_le_add_right (Nat.zero_le _) _
  | transmit hcall hstage | abort hcall hstage | resume hcall hstage =>
    refine hpaid hcall ?_
    simp [hstage, stageWork]
  | drop hcall =>
    have hsum := hset hcall .dropped
    rw [stageWork] at hsum
    dsimp only [Event.isOwn, Bool.toNat_false, callsWork] at hsum ⊢
    omega
  | complete =>
    rw [callsWork, map_stageWork_modify]
    exact le_rfl

/-- A task is exchanged, as far as its work goes. -/
theorem pollerWork_set {k : ℕ} {poller : Poller} (h : s.pollers[k]? = some poller)
    (poller' : Poller) : ((s.pollers.set k poller').map pollerWork).sum + pollerWork poller =
      (s.pollers.map pollerWork).sum + pollerWork poller' :=
  sum_map_set h poller'

/-- A task that has a datagram pays for the datagram in the channel and for one more step. -/
theorem pollerWork_of_message {poller : Poller} {cmd : NetworkBindingCallbackMsg}
    (h : poller.message = some cmd) : 2 ≤ pollerWork poller := by
  cases poller with
  | handing => exact Nat.le_succ 2
  | blocked => exact le_rfl
  | reading | panicked => cases h

/-- Every step is paid by what it brings and by what was ahead of the network. -/
theorem work_of_transition (hs : WellFormed s.net) {e : Event} (h : Transition pec s e s') :
    e.isOwn.toNat + s'.work ≤ e.credit + s.work := by
  cases h with
  | call he hnet =>
    have hle := callsWork_of_step hs hnet
    dsimp only [work] at hle ⊢
    omega
  | add =>
    simp only [work, List.map_append, List.sum_append]
    exact le_rfl
  | refuse => exact le_rfl
  | ignore => exact Nat.add_le_add_right (Nat.zero_le _) _
  | @read k networkId buf hpoller =>
    have hset := pollerWork_set hpoller (.handing (.receive networkId (buf.take 4096)))
    change 0 + work _ ≤ 3 + work s
    rw [pollerWork, pollerWork] at hset
    dsimp only [work]
    omega
  | recvError hpoller =>
    have hset := pollerWork_set hpoller .panicked
    change 0 + work _ ≤ 0 + work s
    rw [pollerWork, pollerWork] at hset
    dsimp only [work]
    omega
  | @discard k poller cmd hpoller hcmd =>
    have hset : _ + pollerWork poller = _ + 0 := pollerWork_set hpoller (.reading cmd.id)
    have hpos := pollerWork_of_message hcmd
    change 1 + work _ ≤ 0 + work s
    dsimp only [work]
    omega
  | @block k cmd c channel hpoller hchannel hroom hqueue =>
    have hset := pollerWork_set hpoller (.blocked cmd)
    change 1 + work _ ≤ 0 + work s
    rw [pollerWork, pollerWork] at hset
    simp only [work, hchannel, Option.elim_some, hqueue]
    omega
  | @accept k poller cmd c channel hpoller hcmd hchannel hqueue =>
    have hset : _ + pollerWork poller = _ + 0 := pollerWork_set hpoller (.reading cmd.id)
    have hpos := pollerWork_of_message hcmd
    change 1 + work _ ≤ 0 + work s
    simp only [work, hchannel, Option.elim_some, hqueue, List.length_append,
      List.length_singleton]
    omega
  | @handle answers cmd c channel net hchannel hqueue hnet =>
    have hle := callsWork_of_step hs hnet
    have hlen : (if net.handlerRunning then some channel else none).elim 0
        (fun c : BoundedChannel NetworkBindingCallbackMsg 32 => c.queue.length) + 1 ≤
          c.queue.length := by
      rw [hqueue, List.length_cons]
      split_ifs
      · exact le_rfl
      · exact Nat.succ_le_succ (Nat.zero_le _)
    change 0 + callsWork net ≤ 0 + callsWork s.net at hle
    change 1 + work _ ≤ 0 + work s
    simp only [work, hchannel, Option.elim_some]
    omega

theorem sum_credit (es : List Event) :
    (es.map Event.credit).sum = 2 * es.countP Event.isSendto + 3 * es.countP Event.isArrival := by
  induction es with
  | nil => rfl
  | cons e es ih =>
    rw [List.map_cons, List.sum_cons, ih, List.countP_cons, List.countP_cons, Event.credit]
    cases e.isSendto <;> cases e.isArrival <;> simp <;> omega

end Work

section Runs

variable {pec : Bytes → UInt8} {binding : SmbusNetDevBinding} {C : Polling → Event → Prop}
  {es : List Event} {s : Polling}

/-- The calls, the tasks and the receive loop take at most two steps for a call and three for a
datagram: a network that is left alone comes to rest. -/
theorem steps_le (h : Run (step pec) C (Polling.init binding) es s) :
    es.countP Event.isOwn ≤ 2 * es.countP Event.isSendto + 3 * es.countP Event.isArrival := by
  have hle := h.cost_le work (fun e => e.isOwn.toNat) Event.credit .init
    (fun _ _ _ hs _ hstep => Consistent.step hs hstep)
    fun _ _ _ hs _ hstep => work_of_transition hs.net (transition_of_step hstep)
  rw [sum_toNat, sum_credit] at hle
  exact (Nat.le_add_right _ _).trans hle

/-- The sample has a call and two datagrams. -/
theorem steps_le_sampleExchange : sampleExchange.countP Event.isOwn ≤
    2 * sampleExchange.countP Event.isSendto + 3 * sampleExchange.countP Event.isArrival := by
  obtain ⟨s, hrun, -⟩ := @run_sampleExchange (fun _ _ => True) fun _ _ => trivial
  exact steps_le hrun

end Runs

/-! ### Responses -/

/-- The datagram that an event brings: one that is not empty, cut to the buffer of a task. -/
def Event.arrival : Event → Option Bytes
  | .arrive _ buf => if buf = [] then none else some (buf.take 4096)
  | _ => none

/-- A call has transmitted and is not dropped. -/
def Call.HasTransmitted (call : Call) : Prop :=
  call.stage = .waiting ∨ ∃ addr buf, call.stage = .returned addr buf

/-- The packet of a datagram fits a flow. -/
def FitsFlow (flow : MsgFlowTag × ℕ) (buf : Bytes) : Prop :=
  ∃ recvTag, createTag (buf.drop 4) = some recvTag ∧
    SimpleNetwork.matchesFlow recvTag flow = true

/-- A call has the packet of a datagram as its response. -/
def Call.Responded (call : Call) (buf : Bytes) : Prop :=
  ∃ reply, call.reply = some reply ∧ reply.response.buf = buf.drop 4

/-- The call of a flow has its response, or the datagram `buf` is matched with the flow and was
handled at most `n` times. -/
def Due (flow : MsgFlowTag × ℕ) (buf : Bytes) (n : ℕ) (s : Polling) : Prop :=
  ∃ call, s.net.calls[flow.2]? = some call ∧ Call.HasTransmitted call ∧
    ((∃ response ∈ s.handled, FitsFlow flow response ∧ Call.Responded call response) ∨
      s.handled.count buf ≤ n ∧ s.net.net.firstFlow buf = some flow)

section Calls

variable {pec : Bytes → UInt8} {s s' : State} {e : Network.Event} {i : ℕ}

/-- A call that has transmitted stays so unless it is dropped, and keeps its response. -/
theorem hasTransmitted_of_step (hs : WellFormed s) (h : Network.step pec s e = some s')
    (he : e ≠ .drop i) {call : Call} (hcall : s.calls[i]? = some call)
    (hsent : Call.HasTransmitted call) :
    ∃ call', s'.calls[i]? = some call' ∧ Call.HasTransmitted call' ∧
      ∀ buf, Call.Responded call buf → Call.Responded call' buf := by
  have hkeep {calls : List Call} (hsame : calls[i]? = some call) :
      ∃ call', calls[i]? = some call' ∧ Call.HasTransmitted call' ∧
        ∀ buf, Call.Responded call buf → Call.Responded call' buf :=
    ⟨call, hsame, hsent, fun _ hresponded => hresponded⟩
  have hother {j : ℕ} {c c' : Call} (hc : s.calls[j]? = some c) (hne : i ≠ j) :
      (s.calls.set j c')[i]? = some call := (getElem?_set_eq_some hc _).mpr (.inr ⟨hne, hcall⟩)
  -- A call that waits for the lock has not transmitted.
  have hlocking {j : ℕ} {c : Call} (hc : s.calls[j]? = some c) (hstage : c.stage = .locking) :
      i ≠ j := by
    rintro rfl
    obtain rfl := Option.some.inj (hc.symm.trans hcall)
    rcases hsent with hsent | ⟨addr, buf, hsent⟩ <;> cases hstage.symm.trans hsent
  cases Network.transition_of_step hs.poisoned_of_running h with
  | socket | bind | discard | crash => exact hkeep hcall
  | register | refuse => exact hkeep (KeyedFifo.getElem?_concat_eq_some.mpr (.inl hcall))
  | transmit hc hstage | abort hc hstage => exact hkeep (hother hc (hlocking hc hstage))
  | @resume j c reply hc hstage hreply =>
    by_cases hij : i = j
    · subst hij
      obtain rfl := Option.some.inj (hc.symm.trans hcall)
      exact ⟨_, (getElem?_set_eq_some hc _).mpr (.inl ⟨rfl, rfl⟩), .inr ⟨_, _, rfl⟩,
        fun _ hresponded => hresponded⟩
    · exact hkeep (hother hc hij)
  | @drop j c hc hopen => exact hkeep (hother hc fun hij => he (hij ▸ rfl))
  | @complete answers id buf recvTag flow hrunning hfirst htag hfind hopen =>
    obtain ⟨c, -, -, -, hc, hnone, -⟩ := hs.flow flow (List.mem_of_find?_eq_some hfind)
    by_cases hij : i = flow.2
    · -- A call whose flow is in flight has no response yet.
      obtain rfl := Option.some.inj ((hij ▸ hc).symm.trans hcall)
      refine ⟨_, (getElem?_modify_eq_some hc _).mpr (.inl ⟨hij, rfl⟩), hsent, ?_⟩
      rintro bytes ⟨reply, hsome, -⟩
      cases hnone.symm.trans hsome
    · exact hkeep ((getElem?_modify_eq_some hc _).mpr (.inr ⟨hij, hcall⟩))

/-- While the receive loop runs, the flow that a datagram is matched with stays so until its call
has a response, which it has when the datagram is received. -/
theorem firstFlow_of_step (hs : WellFormed s) (h : Network.step pec s e = some s')
    (hrunning' : s'.handlerRunning = true) {buf : Bytes} {flow : MsgFlowTag × ℕ}
    (hbuf : s.net.firstFlow buf = some flow) :
    (s'.net.firstFlow buf = some flow ∧ ∀ id, reception e ≠ some (id, buf)) ∨
      ∃ id response call, reception e = some (id, response) ∧ FitsFlow flow response ∧
        s'.calls[flow.2]? = some call ∧ Call.Responded call response := by
  obtain ⟨hlen, recvTag, htag, hfind⟩ := SimpleNetwork.firstFlow_eq_some_iff.mp hbuf
  cases Network.transition_of_step hs.poisoned_of_running h with
  | socket | refuse | transmit | abort | resume | drop => exact .inl ⟨hbuf, fun _ => nofun⟩
  | bind sd address msgType tag =>
    refine .inl ⟨SimpleNetwork.firstFlow_eq_some_iff.mpr ⟨hlen, recvTag, htag, ?_⟩, fun _ => nofun⟩
    rw [SimpleNetwork.flows_bind]
    exact hfind
  | register =>
    refine .inl ⟨SimpleNetwork.firstFlow_eq_some_iff.mpr ⟨hlen, recvTag, htag, ?_⟩, fun _ => nofun⟩
    rw [List.find?_append, hfind]
    rfl
  | discard answers id hdiscard =>
    refine .inl ⟨hbuf, fun id' hreceived => ?_⟩
    obtain ⟨rfl, rfl⟩ := Prod.mk.inj (Option.some.inj hreceived)
    rcases hdiscard with hstopped | hnone
    · cases hstopped.symm.trans hrunning'
    · cases hnone.symm.trans hbuf
  | @complete answers id bytes recvTag' flow' hrunning hfirst htag' hfind' hopen =>
    by_cases hflow : flow' = flow
    · subst hflow
      obtain ⟨c, -, -, -, hc, -⟩ := hs.flow _ (List.mem_of_find?_eq_some hfind')
      exact .inr ⟨id, bytes, _, rfl, ⟨recvTag', htag', List.find?_some hfind'⟩,
        (getElem?_modify_eq_some hc _).mpr (.inl ⟨rfl, rfl⟩), _, rfl, rfl⟩
    · refine .inl ⟨SimpleNetwork.firstFlow_eq_some_iff.mpr ⟨hlen, recvTag, htag,
        KeyedFifo.find?_eraseP_of_ne hfind' hfind hflow⟩, fun id' hreceived => hflow ?_⟩
      obtain ⟨rfl, rfl⟩ := Prod.mk.inj (Option.some.inj hreceived)
      exact Option.some.inj (hfirst.symm.trans hbuf)
  | crash => cases hrunning'

end Calls

section Responses

variable {pec : Bytes → UInt8} {binding : SmbusNetDevBinding} {C : Polling → Event → Prop}
  {es es' : List Event} {s s' : Polling} {flow : MsgFlowTag × ℕ} {n : ℕ} {buf : Bytes}

/-- A run reads what arrives in it. -/
theorem read_eq_of_run (h : Run (step pec) C s es' s') :
    s'.read = s.read ++ es'.filterMap Event.arrival := by
  induction h with
  | nil => exact (List.append_nil _).symm
  | @snoc es t t' e _ hstep _ ih =>
    have hread : t'.read = t.read ++ (e.arrival).toList := by
      cases transition_of_step hstep with
      | read hpoller hbuf =>
        rw [Event.arrival, if_neg hbuf]
        rfl
      | _ => exact (List.append_nil _).symm
    rw [hread, ih, List.filterMap_append, List.append_assoc]
    cases harrival : e.arrival <;> simp [harrival]

/-- While the receive loop runs, everything that was read from a drained network was handled. -/
theorem Drained.perm (hdrained : s.Drained) (hs : Consistent s)
    (hrunning : s.net.handlerRunning = true) : s.read.Perm s.handled := by
  obtain ⟨c, hc⟩ : ∃ c, s.channel = some c :=
    Option.isSome_iff_exists.mp (hs.isSome_eq.trans hrunning)
  obtain ⟨lost, hread, hlost⟩ := hs.conserved
  have hsent : s.accepted = s.handled ++ c.queue.map (·.buf) :=
    (hs.inOrder_some hc).sent_eq _ rfl
  rw [hdrained.2 c hc, List.map_nil, List.append_nil] at hsent
  rw [hlost hrunning, add_zero, hdrained.1, hsent, Multiset.coe_nil, add_zero] at hread
  exact Multiset.coe_eq_coe.mp hread

/-- The receive loop does not start again. -/
theorem running_of_step (hs : Consistent s) {e : Event} (h : step pec s e = some s')
    (hrunning : s'.net.handlerRunning = true) : s.net.handlerRunning = true := by
  cases transition_of_step h with
  | call he hnet => exact (Consistent.keeps_of_call hs.net he hnet).1 ▸ hrunning
  | handle hchannel => exact hs.running hchannel
  | _ => exact hrunning

/-- While the receive loop runs and the call is not dropped, its response is due until it is
there. -/
theorem Due.step (hs : Consistent s) (hdue : Due flow buf n s) {e : Event}
    (he : e ≠ .call (.drop flow.2)) (h : Polling.step pec s e = some s')
    (hrunning : s'.net.handlerRunning = true) : Due flow buf n s' := by
  obtain ⟨call, hcall, hsent, hresponse⟩ := hdue
  cases transition_of_step h with
  | @call e net hreceive hnet =>
    have hne : e ≠ .drop flow.2 := fun heq => he (congrArg Event.call heq)
    obtain ⟨call', hcall', hsent', hkeep⟩ := hasTransmitted_of_step hs.net hnet hne hcall hsent
    refine ⟨call', hcall', hsent', ?_⟩
    rcases hresponse with ⟨response, hmem, hfits, hresponded⟩ | ⟨hcount, hfirst⟩
    · exact .inl ⟨response, hmem, hfits, hkeep response hresponded⟩
    · rcases firstFlow_of_step hs.net hnet hrunning hfirst with
        ⟨hfirst', -⟩ | ⟨id, response, -, hr, -⟩
      · exact .inr ⟨hcount, hfirst'⟩
      · cases (reception_of_not_isReceive hreceive).symm.trans hr
  | @handle answers cmd c channel net hchannel hqueue hnet =>
    obtain ⟨call', hcall', hsent', hkeep⟩ :=
      hasTransmitted_of_step hs.net hnet Network.Event.noConfusion hcall hsent
    refine ⟨call', hcall', hsent', ?_⟩
    rcases hresponse with ⟨response, hmem, hfits, hresponded⟩ | ⟨hcount, hfirst⟩
    · exact .inl ⟨response, List.mem_append_left _ hmem, hfits, hkeep response hresponded⟩
    · rcases firstFlow_of_step hs.net hnet hrunning hfirst with
        ⟨hfirst', hne⟩ | ⟨id, response, c', hr, hfits, hc', hresponded⟩
      · -- Another datagram was handled.
        have hbytes : cmd.buf ≠ buf := fun heq => hne cmd.id (heq ▸ rfl)
        refine .inr ⟨?_, hfirst'⟩
        rw [List.count_append, List.count_singleton, if_neg (by simpa using hbytes)]
        exact hcount
      · obtain ⟨rfl, rfl⟩ := Prod.mk.inj (Option.some.inj hr)
        obtain rfl := Option.some.inj (hc'.symm.trans hcall')
        exact .inl ⟨cmd.buf, List.mem_append_right _ (List.mem_singleton_self _), hfits,
          hresponded⟩
  | _ => exact ⟨call, hcall, hsent, hresponse⟩

/-- When a network has come to rest after a datagram that is matched with the flow of a call that
holds the lock, the call has a response. -/
theorem response_of_run (h : Run (step pec) C (Polling.init binding) es s)
    (hholder : s.net.bindingHolder = some flow.2) (hfirst : s.net.net.firstFlow buf = some flow)
    (h' : Run (step pec) (fun _ e => e ≠ .call (.drop flow.2)) s es' s')
    (harrival : buf ∈ es'.filterMap Event.arrival) (hrunning : s'.net.handlerRunning = true)
    (hrest : AtRest pec s') :
    ∃ call, s'.net.calls[flow.2]? = some call ∧ Call.HasTransmitted call ∧
      ∃ response ∈ s'.handled, FitsFlow flow response ∧ Call.Responded call response := by
  have hs := consistent_run h
  obtain ⟨hs', call, hcall, hsent, hresponse⟩ :
      Consistent s' ∧ Due flow buf (s.handled.count buf) s' := by
    obtain ⟨call, hcall⟩ := hs.net.holder _ hholder
    have hdue : Due flow buf (s.handled.count buf) s :=
      ⟨call, hcall, .inl ((hs.net.waiting _ call hcall).mpr hholder), .inr ⟨le_rfl, hfirst⟩⟩
    refine (h'.invariant (I := fun t => Consistent t ∧ (t.net.handlerRunning = true →
      Due flow buf (s.handled.count buf) t)) ⟨hs, fun _ => hdue⟩ ?_).imp_right
        fun hdue => hdue hrunning
    rintro t e t' ⟨ht, hdue⟩ he hstep
    exact ⟨ht.step hstep, fun hrunning =>
      (hdue (running_of_step ht hstep hrunning)).step ht he hstep hrunning⟩
  have hserving := serving_run ((h.mono fun _ _ _ => trivial).append (h'.mono fun _ _ _ => trivial))
  -- The datagram was handled since, so the call has a response.
  have hcount : s.handled.count buf < s'.handled.count buf := by
    rw [← ((hrest.drained hserving).perm hs' hrunning).count_eq buf, read_eq_of_run h',
      List.count_append]
    have hle := hs.subperm.count_le buf
    have hpos := List.count_pos_iff.mpr harrival
    omega
  exact ⟨call, hcall, hsent, hresponse.resolve_right fun hdue => by omega⟩

/-- At rest a call that has a response has returned it. -/
theorem AtRest.exists_returned (hs : WellFormed s.net) (hrest : AtRest pec s) {i : ℕ} {call : Call}
    (hcall : s.net.calls[i]? = some call) (hsent : Call.HasTransmitted call) {response : Bytes}
    (hresponded : Call.Responded call response) :
    ∃ addr, call.stage = .returned addr (response.drop 4) := by
  obtain ⟨reply, hreply, hpacket⟩ := hresponded
  rcases hsent with hstage | ⟨addr, bytes, hstage⟩
  · cases (hrest.reply_eq_none hcall hstage).symm.trans hreply
  · obtain ⟨reply', hreply', hreceive⟩ := hs.returned i call addr bytes hcall hstage
    obtain rfl := Option.some.inj (hreply'.symm.trans hreply)
    rw [hreceive] at hpacket
    obtain rfl : bytes = response.drop 4 := hpacket
    exact ⟨addr, hstage⟩

/-- A call waits with the lock, and a datagram that is matched with its flow arrives. When the
network is at rest again, the call has returned the packet of a datagram that fits its flow, unless
it was dropped or the receive loop has ended. -/
theorem response_returned (h : Run (step pec) C (Polling.init binding) es s)
    (hholder : s.net.bindingHolder = some flow.2) (hfirst : s.net.net.firstFlow buf = some flow)
    (h' : Run (step pec) (fun _ e => e ≠ .call (.drop flow.2)) s es' s')
    (harrival : buf ∈ es'.filterMap Event.arrival) (hrunning : s'.net.handlerRunning = true)
    (hrest : AtRest pec s') :
    ∃ call addr, ∃ response ∈ s'.handled, FitsFlow flow response ∧
      s'.net.calls[flow.2]? = some call ∧ call.stage = .returned addr (response.drop 4) := by
  obtain ⟨call, hcall, hsent, response, hmem, hfits, hresponded⟩ :=
    response_of_run h hholder hfirst h' harrival hrunning hrest
  have hs' := consistent_run
    ((h.mono fun _ _ _ => trivial).append (h'.mono fun _ _ _ => trivial) :
      Run (step pec) (fun _ _ => True) (Polling.init binding) (es ++ es') s')
  obtain ⟨addr, hstage⟩ := hrest.exists_returned hs'.net hcall hsent hresponded
  exact ⟨call, addr, response, hmem, hfits, hcall, hstage⟩

/-- The sample response arrives, and its call returns. -/
theorem response_returned_sampleWaiting : ∃ (s : Polling) (call : Call) (addr : SocketAddress),
    ∃ response ∈ s.handled, FitsFlow (⟨0x0A, 0x08, 1, true⟩, 0) response ∧
      s.net.calls[0]? = some call ∧ call.stage = .returned addr (response.drop 4) := by
  obtain ⟨s, s', hrun, hrun', hholder, hfirst, hrunning, hdrained, hcalls⟩ : ∃ s s' : Polling,
      Run (step crc8) (fun _ _ => True) (Polling.init sampleBinding) (sampleExchange.take 5) s ∧
      Run (step crc8) (fun _ e => e ≠ .call (.drop 0)) s
        [.arrive 0 (sampleReply 0x08 0x02), .handOver 0, .handle (some 0), .call (.resume 0)] s' ∧
      s.net.bindingHolder = some 0 ∧
      s.net.net.firstFlow (sampleReply 0x08 0x02) = some (⟨0x0A, 0x08, 1, true⟩, 0) ∧
      s'.net.handlerRunning = true ∧ (s'.inHands = [] ∧ s'.channel = some (.empty _ 32)) ∧
      s'.net.calls = [sampleReturned 0x08 0x02 (sampleLabel 0 0x08 0x02)] :=
    ⟨_, _, .cons rfl trivial (.cons rfl trivial (.cons rfl trivial (.cons rfl trivial
      (.cons rfl trivial .nil)))), .cons rfl (by simp) (.cons rfl (by simp) (.cons rfl (by simp)
        (.cons rfl (by simp) .nil))), rfl, rfl, rfl, ⟨rfl, rfl⟩, rfl⟩
  have hrest : AtRest crc8 s' := by
    have hnet := (consistent_run ((hrun.mono fun _ _ _ => trivial).append
      (hrun'.mono fun _ _ _ => trivial) : Run (step crc8) (fun _ _ => True) _ _ s')).net
    refine atRest_of_drained hnet ⟨hdrained.1, fun c hc => ?_⟩ (.inl fun call hcall => ?_)
    · obtain rfl := Option.some.inj (hdrained.2.symm.trans hc)
      rfl
    · rw [hcalls] at hcall
      obtain rfl := List.mem_singleton.mp hcall
      rfl
  obtain ⟨call, addr, response, hreturned⟩ := response_returned hrun hholder hfirst hrun'
    (List.mem_singleton_self _) hrunning hrest
  exact ⟨s', call, addr, response, hreturned⟩

end Responses

end Polling

end Network

end MctpEmu
