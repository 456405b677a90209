import MctpEmu.Library.StepSystem
import MctpEmu.Network.SimpleNetwork

/-!
# Concurrent calls on one network

The tasks that share a `SimpleNetwork`: any number of `sendto` calls and the receive loop. A call
registers its flow, takes the lock of the binding and transmits, and waits for its response with
the lock held, since the guard lives until the call ends. It can be dropped while it waits for the
lock or for the response. The receive loop ends when it panics.

Calls are numbered in the order in which they are made, and the channel of a call has its number.
Two logs that no step reads record which call each transmitted frame and each received reply
belongs to.

## Main definitions

* `Network.Call`, `Network.State`, `Network.Event`.
* `Network.step`: one step of the system.
* `Network.Transition`: what a step does, case by case.
* `Network.WellFormed`: the invariant of all runs.

## Main results

* `Network.transition_of_step`: every step is one of the transitions.
* `Network.WellFormed.step`, `Network.wellFormed_run`: the invariant holds in every run.
-/

namespace MctpEmu

namespace Network

open SimpleNetwork

/-- Where a call of `sendto` stands. -/
inductive Stage
  | locking
  | waiting
  | returned (addr : SocketAddress) (buf : Bytes)
  | failed (error : MctpEmuError)
  | panicked
  | dropped
deriving DecidableEq, Repr

/-- What was sent on the channel of a call, and which call's request it answers. -/
structure Reply where
  answers : Option ℕ
  response : ClientCallbackMsg
deriving DecidableEq, Repr

/-- A call of `sendto` with its packet and its one-shot channel. -/
structure Call where
  packet : Bytes
  phyAddr : UInt64
  stage : Stage
  reply : Option Reply
deriving DecidableEq, Repr

/-- The receiver of the channel lives as long as the call has not ended. -/
def Call.isOpen (call : Call) : Bool :=
  match call.stage with
  | .locking | .waiting => true
  | _ => false

theorem Call.isOpen_iff (call : Call) :
    call.isOpen = true ↔ call.stage = .locking ∨ call.stage = .waiting := by
  rw [Call.isOpen]
  cases call.stage <;> simp

structure State where
  net : SimpleNetwork
  calls : List Call
  /-- The call that holds the lock of the binding. -/
  bindingHolder : Option ℕ
  handlerRunning : Bool
  /-- The call of every whole frame that was handed to the socket. -/
  sent : List ℕ
  /-- The call of every reply that was received. -/
  answered : List ℕ

/-- A fresh network. -/
def init (binding : SmbusNetDevBinding) : State :=
  ⟨.new binding, [], none, true, [], []⟩

/-- A fresh network has no calls. -/
theorem not_call_init {binding : SmbusNetDevBinding} {i : ℕ} {call : Call} :
    ¬ (init binding).calls[i]? = some call := by
  rw [init, List.getElem?_nil]
  nofun

inductive Event
  | socket
  | bind (sd : Int32) (address msgType tag : UInt8)
  | sendto (sd : Int32) (payload : Bytes) (addr : SocketAddress)
  /-- A call gets the lock of the binding and transmits. -/
  | transmit (i : ℕ) (sends : Except IoError ℕ × Except IoError ℕ)
  /-- A call returns with its response. -/
  | resume (i : ℕ)
  /-- The future of a call is dropped. -/
  | drop (i : ℕ)
  /-- A datagram arrives; `answers` is the call whose request it answers. -/
  | receive (answers : Option ℕ) (id : UInt64) (buf : Bytes)

/-- Whether a channel still has its receiver. -/
def State.isOpen (s : State) (channel : ℕ) : Bool :=
  match s.calls[channel]? with
  | some call => call.isOpen
  | none => false

theorem State.isOpen_eq {s : State} {i : ℕ} {call : Call} (h : s.calls[i]? = some call) :
    s.isOpen i = call.isOpen := by
  rw [State.isOpen, h]

/-- The call after its stage has changed. -/
def Call.goto (call : Call) (stage : Stage) : Call := { call with stage }

/-- The numbers of the whole frames of a transmission. -/
def wholeFrames (i : ℕ) (sends : List TrySend) : List ℕ :=
  (sends.filter fun call => match call.result with
    | .ok sentBytes => sentBytes = call.buf.length
    | .error _ => false).map fun _ => i

/-- One step of the system. -/
def step (pec : Bytes → UInt8) (s : State) : Event → Option State
  | .socket => some { s with net := s.net.socket.2 }
  | .bind sd address msgType tag => some { s with net := (s.net.bind sd address msgType tag).2 }
  | .sendto sd payload addr =>
    let (result, net) := s.net.registerFlow s.calls.length sd payload addr
    let call : Call := match result with
      | .ok (_, buf, phyAddr) => ⟨buf, phyAddr, .locking, none⟩
      | .err e => ⟨[], 0, .failed e, none⟩
      | .panic _ => ⟨[], 0, .panicked, none⟩
    some { s with net, calls := s.calls ++ [call] }
  | .transmit i sends =>
    match s.calls[i]? with
    | none => none
    | some call =>
      if call.stage = .locking ∧ s.bindingHolder = none then
        let (result, frames) := s.net.physBindings.transmit pec sends call.packet call.phyAddr
        let sent := s.sent ++ wholeFrames i frames
        -- The result is unwrapped.
        match result with
        | .ok () => some { s with
            calls := s.calls.set i (call.goto .waiting), bindingHolder := some i, sent }
        | _ => some { s with calls := s.calls.set i (call.goto .panicked), sent }
      else none
  | .resume i =>
    match s.calls[i]? with
    | none => none
    | some call =>
      match call.stage, call.reply with
      | .waiting, some reply => some { s with
          calls := s.calls.set i (call.goto (.returned reply.response.addr reply.response.buf))
          bindingHolder := none }
      | _, _ => none
  | .drop i =>
    match s.calls[i]? with
    | none => none
    | some call =>
      if call.isOpen then some { s with
        calls := s.calls.set i (call.goto .dropped)
        bindingHolder := if s.bindingHolder = some i then none else s.bindingHolder }
      else none
  | .receive answers id buf =>
    let answered := s.answered ++ answers.toList
    if s.handlerRunning then
      match s.net.callbackHandler s.isOpen id buf with
      | (.discarded, net) => some { s with net, answered }
      | (.sent channel response, net) =>
        let calls := s.calls.modify channel fun call =>
          { call with reply := some ⟨answers, response⟩ }
        some { s with net, calls, answered }
      | (.panicked, net) => some { s with net, answered, handlerRunning := false }
    else some { s with answered }

/-! ### Transitions -/

/-- What a step does. -/
inductive Transition (pec : Bytes → UInt8) (s : State) : Event → State → Prop
  | socket : Transition pec s .socket { s with net := s.net.socket.2 }
  | bind (sd : Int32) (address msgType tag : UInt8) :
      Transition pec s (.bind sd address msgType tag)
        { s with net := (s.net.bind sd address msgType tag).2 }
  | register {sd : Int32} {client : Client} (payload : Bytes) (address : UInt8)
      (network : UInt32) (phyAddr : UInt64) (hclient : s.net.clients sd = some client)
      (hpoison : s.net.flowsPoisoned = false) :
      Transition pec s (.sendto sd payload (.extended address network 1 phyAddr))
        { s with
          net := { s.net with
            flows := s.net.flows ++ [(flowTag client address, s.calls.length)] }
          calls := s.calls ++ [⟨packet client address payload, phyAddr, .locking, none⟩] }
  | refuse {sd : Int32} (payload : Bytes) {addr : SocketAddress} {call : Call}
      (hrefused : ∀ client address network phyAddr, s.net.clients sd = some client →
        addr = .extended address network 1 phyAddr → s.net.flowsPoisoned = true)
      (hstage : (∃ e, call.stage = .failed e) ∨ call.stage = .panicked)
      (hreply : call.reply = none) :
      Transition pec s (.sendto sd payload addr) { s with calls := s.calls ++ [call] }
  | transmit {i : ℕ} {call : Call} {sends : Except IoError ℕ × Except IoError ℕ}
      (hcall : s.calls[i]? = some call) (hstage : call.stage = .locking)
      (hholder : s.bindingHolder = none)
      (hsent : s.net.physBindings.Transmits pec sends call.packet call.phyAddr) :
      Transition pec s (.transmit i sends)
        { s with
          calls := s.calls.set i (call.goto .waiting), bindingHolder := some i
          sent := s.sent ++ wholeFrames i
            (s.net.physBindings.transmit pec sends call.packet call.phyAddr).2 }
  | abort {i : ℕ} {call : Call} {sends : Except IoError ℕ × Except IoError ℕ}
      (hcall : s.calls[i]? = some call) (hstage : call.stage = .locking)
      (hholder : s.bindingHolder = none)
      (hsent : ¬ s.net.physBindings.Transmits pec sends call.packet call.phyAddr) :
      Transition pec s (.transmit i sends)
        { s with
          calls := s.calls.set i (call.goto .panicked)
          sent := s.sent ++ wholeFrames i
            (s.net.physBindings.transmit pec sends call.packet call.phyAddr).2 }
  | resume {i : ℕ} {call : Call} {reply : Reply} (hcall : s.calls[i]? = some call)
      (hstage : call.stage = .waiting) (hreply : call.reply = some reply) :
      Transition pec s (.resume i)
        { s with
          calls := s.calls.set i (call.goto (.returned reply.response.addr reply.response.buf))
          bindingHolder := none }
  | drop {i : ℕ} {call : Call} (hcall : s.calls[i]? = some call) (hopen : call.isOpen = true) :
      Transition pec s (.drop i)
        { s with
          calls := s.calls.set i (call.goto .dropped)
          bindingHolder := if s.bindingHolder = some i then none else s.bindingHolder }
  | discard (answers : Option ℕ) (id : UInt64) {buf : Bytes}
      (h : s.handlerRunning = false ∨ s.net.firstFlow buf = none) :
      Transition pec s (.receive answers id buf)
        { s with answered := s.answered ++ answers.toList }
  | complete (answers : Option ℕ) (id : UInt64) {buf : Bytes} {recvTag : MsgFlowTag}
      {flow : MsgFlowTag × ℕ} (hrunning : s.handlerRunning = true)
      (hfirst : s.net.firstFlow buf = some flow) (htag : createTag (buf.drop 4) = some recvTag)
      (hfind : s.net.flows.find? (matchesFlow recvTag) = some flow)
      (hopen : s.isOpen flow.2 = true) :
      Transition pec s (.receive answers id buf)
        { s with
          net := { s.net with flows := s.net.flows.eraseP (matchesFlow recvTag) }
          calls := s.calls.modify flow.2 fun call =>
            { call with reply := some ⟨answers, .receive (.extended 0 1 id 0) (buf.drop 4)⟩ }
          answered := s.answered ++ answers.toList }
  | crash (answers : Option ℕ) (id : UInt64) {buf : Bytes} {recvTag : MsgFlowTag}
      {flow : MsgFlowTag × ℕ} (hrunning : s.handlerRunning = true)
      (hfirst : s.net.firstFlow buf = some flow) (htag : createTag (buf.drop 4) = some recvTag)
      (hfind : s.net.flows.find? (matchesFlow recvTag) = some flow)
      (hopen : s.isOpen flow.2 = false) :
      Transition pec s (.receive answers id buf)
        { s with
          net := { s.net with
            flows := s.net.flows.eraseP (matchesFlow recvTag), flowsPoisoned := true }
          handlerRunning := false
          answered := s.answered ++ answers.toList }

section Inversion

variable {pec : Bytes → UInt8} {s s' : State}

theorem transition_of_sendto {sd : Int32} {payload : Bytes} {addr : SocketAddress}
    (h : step pec s (.sendto sd payload addr) = some s') :
    Transition pec s (.sendto sd payload addr) s' := by
  rcases s.net.registerFlow_cases s.calls.length sd payload addr with
    ⟨client, address, network, phyAddr, hclient, rfl, hpoison, hreg⟩ | ⟨hrefused, hne, hnet⟩
  · simp only [step, hreg, Option.some.injEq] at h
    subst h
    exact .register payload address network phyAddr hclient hpoison
  · rcases hreg : s.net.registerFlow s.calls.length sd payload addr with ⟨result, net⟩
    rw [hreg] at hne hnet
    obtain rfl : net = s.net := hnet
    simp only [step, hreg, Option.some.injEq] at h
    subst h
    cases result with
    | ok r => exact absurd rfl (hne r)
    | err e => exact .refuse payload hrefused (.inl ⟨e, rfl⟩) rfl
    | panic message => exact .refuse payload hrefused (.inr rfl) rfl

theorem transition_of_transmit {i : ℕ} {sends : Except IoError ℕ × Except IoError ℕ}
    (h : step pec s (.transmit i sends) = some s') :
    Transition pec s (.transmit i sends) s' := by
  cases hcall : s.calls[i]? with
  | none =>
    simp only [step, hcall] at h
    cases h
  | some call =>
    simp only [step, hcall] at h
    by_cases hready : call.stage = .locking ∧ s.bindingHolder = none
    · rw [if_pos hready] at h
      have hiff := SmbusNetDevBinding.transmit_eq_ok_iff pec sends s.net.physBindings
        call.packet call.phyAddr
      by_cases hsent : s.net.physBindings.Transmits pec sends call.packet call.phyAddr
      · rw [hiff.mpr hsent] at h
        simp only [Option.some.injEq] at h
        subst h
        exact .transmit hcall hready.1 hready.2 hsent
      · have habort : s' = { s with
            calls := s.calls.set i (call.goto .panicked)
            sent := s.sent ++ wholeFrames i
              (s.net.physBindings.transmit pec sends call.packet call.phyAddr).2 } := by
          cases hresult : (s.net.physBindings.transmit pec sends call.packet call.phyAddr).1 with
          | ok u => exact absurd (hiff.mp hresult) hsent
          | err e =>
            rw [hresult] at h
            exact (Option.some.inj h).symm
          | panic message =>
            rw [hresult] at h
            exact (Option.some.inj h).symm
        subst habort
        exact .abort hcall hready.1 hready.2 hsent
    · rw [if_neg hready] at h
      cases h

theorem transition_of_resume {i : ℕ} (h : step pec s (.resume i) = some s') :
    Transition pec s (.resume i) s' := by
  cases hcall : s.calls[i]? with
  | none =>
    simp only [step, hcall] at h
    cases h
  | some call =>
    simp only [step, hcall] at h
    split at h
    · rename_i reply hstage hreply
      obtain rfl := Option.some.inj h
      exact .resume hcall hstage hreply
    · cases h

theorem transition_of_drop {i : ℕ} (h : step pec s (.drop i) = some s') :
    Transition pec s (.drop i) s' := by
  cases hcall : s.calls[i]? with
  | none =>
    simp only [step, hcall] at h
    cases h
  | some call =>
    simp only [step, hcall] at h
    by_cases hopen : call.isOpen = true
    · rw [if_pos hopen] at h
      obtain rfl := Option.some.inj h
      exact .drop hcall hopen
    · rw [if_neg hopen] at h
      cases h

theorem transition_of_receive {answers : Option ℕ} {id : UInt64} {buf : Bytes}
    (hsync : s.handlerRunning = true → s.net.flowsPoisoned = false)
    (h : step pec s (.receive answers id buf) = some s') :
    Transition pec s (.receive answers id buf) s' := by
  by_cases hrunning : s.handlerRunning = true
  · simp only [step, if_pos hrunning] at h
    cases hfirst : s.net.firstFlow buf with
    | none =>
      rw [s.net.callbackHandler_of_none s.isOpen id (hsync hrunning) hfirst] at h
      obtain rfl := Option.some.inj h
      exact .discard answers id (.inr hfirst)
    | some flow =>
      obtain ⟨recvTag, htag, hfind, hhandler⟩ :=
        s.net.callbackHandler_of_some s.isOpen id (hsync hrunning) hfirst
      rw [hhandler] at h
      by_cases hopen : s.isOpen flow.2 = true
      · rw [if_pos hopen] at h
        obtain rfl := Option.some.inj h
        exact .complete answers id hrunning hfirst htag hfind hopen
      · rw [if_neg hopen] at h
        obtain rfl := Option.some.inj h
        exact .crash answers id hrunning hfirst htag hfind (Bool.eq_false_iff.mpr hopen)
  · simp only [step, if_neg hrunning] at h
    obtain rfl := Option.some.inj h
    exact .discard answers id (.inl (Bool.eq_false_iff.mpr hrunning))

/-- Every step is one of the transitions, as long as a poisoned mutex has ended the receive loop. -/
theorem transition_of_step {e : Event}
    (hsync : s.handlerRunning = true → s.net.flowsPoisoned = false)
    (h : step pec s e = some s') : Transition pec s e s' := by
  cases e with
  | socket =>
    obtain rfl := Option.some.inj h
    exact .socket
  | bind sd address msgType tag =>
    obtain rfl := Option.some.inj h
    exact .bind sd address msgType tag
  | sendto sd payload addr => exact transition_of_sendto h
  | transmit i sends => exact transition_of_transmit h
  | resume i => exact transition_of_resume h
  | drop i => exact transition_of_drop h
  | receive answers id buf => exact transition_of_receive hsync h

end Inversion

/-! ### The invariant of all runs -/

/-- What holds in every run: the mutex is poisoned exactly when the receive loop has ended, the
waiting call holds the lock, and the flows in flight are those of the unanswered calls that have
not ended, and of some that have. -/
structure WellFormed (s : State) : Prop where
  handler : s.handlerRunning = !s.net.flowsPoisoned
  waiting : ∀ i call, s.calls[i]? = some call →
    (call.stage = .waiting ↔ s.bindingHolder = some i)
  holder : ∀ i, s.bindingHolder = some i → ∃ call, s.calls[i]? = some call
  nodup : (s.net.flows.map Prod.snd).Nodup
  flow : ∀ flow ∈ s.net.flows, ∃ call client address payload, s.calls[flow.2]? = some call ∧
    call.reply = none ∧ flow.1 = flowTag client address ∧
    call.packet = packet client address payload
  pending : ∀ i call, s.calls[i]? = some call → call.isOpen = true → call.reply = none →
    ∃ tag, (tag, i) ∈ s.net.flows
  returned : ∀ (i : ℕ) (call : Call) (addr : SocketAddress) (buf : Bytes),
    s.calls[i]? = some call → call.stage = .returned addr buf →
    ∃ reply, call.reply = some reply ∧ reply.response = .receive addr buf

section Lookup

theorem getElem?_set_eq_some {l : List Call} {i : ℕ} {a : Call} (h : l[i]? = some a) (b : Call)
    {j : ℕ} {c : Call} :
    (l.set i b)[j]? = some c ↔ (j = i ∧ b = c) ∨ (j ≠ i ∧ l[j]? = some c) := by
  obtain ⟨hlt, -⟩ := List.getElem?_eq_some_iff.mp h
  by_cases hj : j = i
  · subst hj
    rw [List.getElem?_set_self hlt, Option.some.injEq]
    simp
  · rw [List.getElem?_set_ne (Ne.symm hj)]
    simp [hj]

theorem getElem?_modify_eq_some {l : List Call} {i : ℕ} {a : Call} (h : l[i]? = some a)
    (f : Call → Call) {j : ℕ} {c : Call} :
    (l.modify i f)[j]? = some c ↔ (j = i ∧ f a = c) ∨ (j ≠ i ∧ l[j]? = some c) := by
  rw [List.getElem?_modify]
  by_cases hj : j = i
  · subst hj
    rw [h]
    simp
  · simp [hj, Ne.symm hj]

end Lookup

namespace WellFormed

variable {s : State}

theorem init (binding : SmbusNetDevBinding) : WellFormed (Network.init binding) where
  handler := rfl
  waiting _ _ hcall := absurd hcall not_call_init
  holder := nofun
  nodup := .nil
  flow := nofun
  pending _ _ hcall := absurd hcall not_call_init
  returned _ _ _ _ hcall := absurd hcall not_call_init

theorem poisoned_of_running (hs : WellFormed s) (h : s.handlerRunning = true) :
    s.net.flowsPoisoned = false := by
  have hsync := hs.handler
  rw [h] at hsync
  simpa using hsync.symm

/-- An open call may change its stage and pass on the lock. -/
theorem goto (hs : WellFormed s) {i : ℕ} {call : Call} {stage : Stage} {holder : Option ℕ}
    (sent : List ℕ) (hcall : s.calls[i]? = some call) (hopen : call.isOpen = true)
    (hwait : stage = .waiting ↔ holder = some i)
    (hothers : ∀ j, j ≠ i → (holder = some j ↔ s.bindingHolder = some j))
    (hreturn : ∀ addr buf, stage = .returned addr buf →
      ∃ reply, call.reply = some reply ∧ reply.response = .receive addr buf) :
    WellFormed { s with
      calls := s.calls.set i (call.goto stage), bindingHolder := holder, sent := sent } where
  handler := hs.handler
  waiting j c hj := by
    rcases (getElem?_set_eq_some hcall _).mp hj with ⟨rfl, rfl⟩ | ⟨hne, hj⟩
    · exact hwait
    · exact (hs.waiting j c hj).trans (hothers j hne).symm
  holder j hj := by
    by_cases hji : j = i
    · exact ⟨_, (getElem?_set_eq_some hcall _).mpr (.inl ⟨hji, rfl⟩)⟩
    · obtain ⟨c, hc⟩ := hs.holder j ((hothers j hji).mp hj)
      exact ⟨c, (getElem?_set_eq_some hcall _).mpr (.inr ⟨hji, hc⟩)⟩
  nodup := hs.nodup
  flow flow hflow := by
    obtain ⟨c, client, address, payload, hc, hreply, htag, hpacket⟩ := hs.flow flow hflow
    by_cases hi : flow.2 = i
    · have hcc : c = call := Option.some.inj (hc.symm.trans (hi ▸ hcall))
      subst hcc
      exact ⟨_, client, address, payload,
        (getElem?_set_eq_some hcall _).mpr (.inl ⟨hi, rfl⟩), hreply, htag, hpacket⟩
    · exact ⟨c, client, address, payload,
        (getElem?_set_eq_some hcall _).mpr (.inr ⟨hi, hc⟩), hreply, htag, hpacket⟩
  pending j c hj hjopen hjreply := by
    rcases (getElem?_set_eq_some hcall _).mp hj with ⟨rfl, rfl⟩ | ⟨-, hj⟩
    · exact hs.pending j call hcall hopen hjreply
    · exact hs.pending j c hj hjopen hjreply
  returned j c addr buf hj hstage := by
    rcases (getElem?_set_eq_some hcall _).mp hj with ⟨rfl, rfl⟩ | ⟨-, hj⟩
    · exact hreturn addr buf hstage
    · exact hs.returned j c addr buf hj hstage

/-- A registered call waits for the lock with its flow in flight. -/
theorem register (hs : WellFormed s) (client : Client) (address : UInt8) (payload : Bytes)
    (phyAddr : UInt64) :
    WellFormed { s with
      net := { s.net with flows := s.net.flows ++ [(flowTag client address, s.calls.length)] }
      calls := s.calls ++ [⟨packet client address payload, phyAddr, .locking, none⟩] } where
  handler := hs.handler
  waiting i c hi := by
    rcases KeyedFifo.getElem?_concat_eq_some.mp hi with hi | ⟨rfl, rfl⟩
    · exact hs.waiting i c hi
    · refine ⟨nofun, fun hholder => ?_⟩
      obtain ⟨c, hc⟩ := hs.holder _ hholder
      rw [List.getElem?_eq_none le_rfl] at hc
      cases hc
  holder i hi := by
    obtain ⟨c, hc⟩ := hs.holder i hi
    exact ⟨c, KeyedFifo.getElem?_concat_eq_some.mpr (.inl hc)⟩
  nodup := by
    rw [List.map_append, List.map_singleton, List.nodup_append]
    refine ⟨hs.nodup, List.nodup_singleton _, ?_⟩
    rintro i hi j hj rfl
    obtain rfl := List.mem_singleton.mp hj
    obtain ⟨flow, hflow, hlen⟩ := List.mem_map.mp hi
    obtain ⟨c, -, -, -, hc, -⟩ := hs.flow flow hflow
    rw [hlen, List.getElem?_eq_none le_rfl] at hc
    cases hc
  flow flow hflow := by
    rcases List.mem_append.mp hflow with hflow | hflow
    · obtain ⟨c, client, address, payload, hc, hrest⟩ := hs.flow flow hflow
      exact ⟨c, client, address, payload, KeyedFifo.getElem?_concat_eq_some.mpr (.inl hc), hrest⟩
    · obtain rfl := List.mem_singleton.mp hflow
      exact ⟨_, client, address, payload,
        KeyedFifo.getElem?_concat_eq_some.mpr (.inr ⟨rfl, rfl⟩), rfl, rfl, rfl⟩
  pending i c hi hopen hreply := by
    rcases KeyedFifo.getElem?_concat_eq_some.mp hi with hi | ⟨rfl, rfl⟩
    · obtain ⟨tag, htag⟩ := hs.pending i c hi hopen hreply
      exact ⟨tag, List.mem_append_left _ htag⟩
    · exact ⟨_, List.mem_append_right _ (List.mem_singleton_self _)⟩
  returned i c addr buf hi hstage := by
    rcases KeyedFifo.getElem?_concat_eq_some.mp hi with hi | ⟨rfl, rfl⟩
    · exact hs.returned i c addr buf hi hstage
    · cases hstage

/-- A call that ended before it registered a flow changes nothing else. -/
theorem refuse (hs : WellFormed s) {call : Call}
    (hstage : (∃ e, call.stage = .failed e) ∨ call.stage = .panicked) :
    WellFormed { s with calls := s.calls ++ [call] } where
  handler := hs.handler
  waiting i c hi := by
    rcases KeyedFifo.getElem?_concat_eq_some.mp hi with hi | ⟨rfl, rfl⟩
    · exact hs.waiting i c hi
    · refine ⟨fun hwait => ?_, fun hholder => ?_⟩
      · rcases hstage with ⟨e, he⟩ | he <;> rw [hwait] at he <;> cases he
      · obtain ⟨c, hc⟩ := hs.holder _ hholder
        rw [List.getElem?_eq_none le_rfl] at hc
        cases hc
  holder i hi := by
    obtain ⟨c, hc⟩ := hs.holder i hi
    exact ⟨c, KeyedFifo.getElem?_concat_eq_some.mpr (.inl hc)⟩
  nodup := hs.nodup
  flow flow hflow := by
    obtain ⟨c, client, address, payload, hc, hrest⟩ := hs.flow flow hflow
    exact ⟨c, client, address, payload, KeyedFifo.getElem?_concat_eq_some.mpr (.inl hc), hrest⟩
  pending i c hi hopen hreply := by
    rcases KeyedFifo.getElem?_concat_eq_some.mp hi with hi | ⟨rfl, rfl⟩
    · exact hs.pending i c hi hopen hreply
    · rcases (call.isOpen_iff).mp hopen with hopen | hopen <;>
        rcases hstage with ⟨e, he⟩ | he <;> rw [hopen] at he <;> cases he
  returned i c addr buf hi hret := by
    rcases KeyedFifo.getElem?_concat_eq_some.mp hi with hi | ⟨rfl, rfl⟩
    · exact hs.returned i c addr buf hi hret
    · rcases hstage with ⟨e, he⟩ | he <;> rw [hret] at he <;> cases he

/-- The first match of a datagram takes its flow off the list and its reply to its channel. -/
theorem complete (hs : WellFormed s) {p : MsgFlowTag × ℕ → Bool} {flow : MsgFlowTag × ℕ}
    (hfind : s.net.flows.find? p = some flow) (reply : Reply) (answered : List ℕ) :
    WellFormed { s with
      net := { s.net with flows := s.net.flows.eraseP p }
      calls := s.calls.modify flow.2 fun call => { call with reply := some reply }
      answered := answered } := by
  obtain ⟨call, -, -, -, hcall, hnone, -⟩ := hs.flow flow (List.mem_of_find?_eq_some hfind)
  -- A returned call has had its reply, so the matched one has not returned.
  have hnot : ∀ addr buf, call.stage ≠ .returned addr buf := by
    intro addr buf hstage
    obtain ⟨r, hr, -⟩ := hs.returned flow.2 call addr buf hcall hstage
    rw [hnone] at hr
    cases hr
  refine ⟨hs.handler, ?_, ?_, KeyedFifo.nodup_map_eraseP hs.nodup, ?_, ?_, ?_⟩
  · intro i c hi
    rcases (getElem?_modify_eq_some hcall _).mp hi with ⟨rfl, rfl⟩ | ⟨-, hi⟩
    · exact hs.waiting flow.2 call hcall
    · exact hs.waiting i c hi
  · intro i hi
    obtain ⟨c, hc⟩ := hs.holder i hi
    by_cases hif : i = flow.2
    · exact ⟨_, (getElem?_modify_eq_some hcall _).mpr (.inl ⟨hif, rfl⟩)⟩
    · exact ⟨c, (getElem?_modify_eq_some hcall _).mpr (.inr ⟨hif, hc⟩)⟩
  · intro other hother
    obtain ⟨hmem, hne⟩ := (KeyedFifo.mem_eraseP_iff hs.nodup hfind other).mp hother
    obtain ⟨c, client, address, payload, hc, hrest⟩ := hs.flow other hmem
    exact ⟨c, client, address, payload,
      (getElem?_modify_eq_some hcall _).mpr (.inr ⟨hne, hc⟩), hrest⟩
  · intro i c hi hopen hreply
    rcases (getElem?_modify_eq_some hcall _).mp hi with ⟨rfl, rfl⟩ | ⟨hne, hi⟩
    · cases hreply
    · obtain ⟨tag, htag⟩ := hs.pending i c hi hopen hreply
      exact ⟨tag, (KeyedFifo.mem_eraseP_iff hs.nodup hfind _).mpr ⟨htag, hne⟩⟩
  · intro i c addr buf hi hstage
    rcases (getElem?_modify_eq_some hcall _).mp hi with ⟨rfl, rfl⟩ | ⟨-, hi⟩
    · exact absurd hstage (hnot addr buf)
    · exact hs.returned i c addr buf hi hstage

/-- A match without a receiver takes its flow off the list and ends the receive loop. -/
theorem crash (hs : WellFormed s) {p : MsgFlowTag × ℕ → Bool} {flow : MsgFlowTag × ℕ}
    (hfind : s.net.flows.find? p = some flow) (hclosed : s.isOpen flow.2 = false)
    (answered : List ℕ) :
    WellFormed { s with
      net := { s.net with flows := s.net.flows.eraseP p, flowsPoisoned := true }
      handlerRunning := false
      answered := answered } where
  handler := rfl
  waiting := hs.waiting
  holder := hs.holder
  nodup := KeyedFifo.nodup_map_eraseP hs.nodup
  flow other hother := hs.flow other (List.mem_of_mem_eraseP hother)
  pending i c hi hopen hreply := by
    obtain ⟨tag, htag⟩ := hs.pending i c hi hopen hreply
    refine ⟨tag, (KeyedFifo.mem_eraseP_iff hs.nodup hfind _).mpr ⟨htag, ?_⟩⟩
    rintro rfl
    have hopen' : s.isOpen flow.2 = true := (State.isOpen_eq hi).trans hopen
    rw [hclosed] at hopen'
    cases hopen'
  returned := hs.returned

/-- Every step keeps the invariant. -/
theorem step (hs : WellFormed s) {pec : Bytes → UInt8} {e : Event} {s' : State}
    (h : Network.step pec s e = some s') : WellFormed s' := by
  cases transition_of_step hs.poisoned_of_running h with
  | socket => exact ⟨hs.handler, hs.waiting, hs.holder, hs.nodup, hs.flow, hs.pending, hs.returned⟩
  | bind sd address msgType tag =>
    refine ⟨?_, hs.waiting, hs.holder, ?_, ?_, ?_, hs.returned⟩ <;>
      simp only [flows_bind, flowsPoisoned_bind]
    exacts [hs.handler, hs.nodup, hs.flow, hs.pending]
  | register payload address network phyAddr hclient hpoison =>
    exact hs.register _ address payload phyAddr
  | refuse payload hrefused hstage hreply => exact hs.refuse hstage
  | transmit hcall hstage hholder hsent =>
    refine hs.goto _ hcall ((Call.isOpen_iff _).mpr (.inl hstage)) ⟨fun _ => rfl, fun _ => rfl⟩
      (fun j hj => ?_) nofun
    rw [hholder]
    exact ⟨fun h => absurd (Option.some.inj h).symm hj, nofun⟩
  | abort hcall hstage hholder hsent =>
    refine hs.goto _ hcall ((Call.isOpen_iff _).mpr (.inl hstage)) ⟨nofun, fun h => ?_⟩
      (fun j hj => Iff.rfl) nofun
    rw [hholder] at h
    cases h
  | @resume i call reply hcall hstage hreply =>
    have hholder := (hs.waiting i call hcall).mp hstage
    refine hs.goto s.sent hcall ((Call.isOpen_iff _).mpr (.inr hstage)) ⟨nofun, nofun⟩
      (fun j hj => ⟨nofun, fun h => ?_⟩) fun addr buf hret => ⟨reply, hreply, ?_⟩
    · rw [hholder] at h
      exact absurd (Option.some.inj h).symm hj
    · obtain ⟨rfl, rfl⟩ := Stage.returned.inj hret
      rfl
  | @drop i call hcall hopen =>
    refine hs.goto s.sent hcall hopen ⟨nofun, fun h => ?_⟩ (fun j hj => ?_) nofun
    · by_cases hi : s.bindingHolder = some i
      · rw [if_pos hi] at h
        cases h
      · rw [if_neg hi] at h
        exact absurd h hi
    · by_cases hi : s.bindingHolder = some i
      · rw [if_pos hi, hi]
        exact ⟨nofun, fun h => absurd (Option.some.inj h).symm hj⟩
      · rw [if_neg hi]
  | discard answers id hdiscard =>
    exact ⟨hs.handler, hs.waiting, hs.holder, hs.nodup, hs.flow, hs.pending, hs.returned⟩
  | complete answers id hrunning hfirst htag hfind hopen => exact hs.complete hfind _ _
  | crash answers id hrunning hfirst htag hfind hclosed => exact hs.crash hfind hclosed _

end WellFormed

/-- Every state that a run reaches satisfies the invariant. -/
theorem wellFormed_run {pec : Bytes → UInt8} {binding : SmbusNetDevBinding}
    {C : State → Event → Prop} {es : List Event} {s : State}
    (h : StepSystem.Run (step pec) C (init binding) es s) : WellFormed s :=
  h.invariant (.init binding) fun _ _ _ hs _ hstep => hs.step hstep

/-! ### A network with two sockets -/

/-- A binding with the address `0x10`. -/
def sampleBinding : SmbusNetDevBinding := ⟨0x10, 1, some ⟨"localhost:5558", "localhost:5559"⟩⟩

/-- Sockets of the endpoints 8 and 9, both with tag 9, and some flows. -/
def twoSockets (flows : List (MsgFlowTag × ℕ)) : SimpleNetwork :=
  ⟨Function.update (Function.update (fun _ => none) 0 (some ⟨0x08, 0, 9⟩)) 1 (some ⟨0x09, 0, 9⟩),
    2, sampleBinding, flows, false⟩

/-- The calls that open the two sockets. -/
def openTwoSockets : List Event :=
  [.socket, .bind 0 0x08 0 9, .socket, .bind 1 0x09 0 9]

/-- Opening the two sockets. -/
theorem run_openTwoSockets {C : State → Event → Prop} (hsocket : ∀ s, C s .socket)
    (hbind : ∀ s sd address msgType tag, C s (.bind sd address msgType tag)) :
    StepSystem.Run (step crc8) C (init sampleBinding) openTwoSockets
      ⟨twoSockets [], [], none, true, [], []⟩ := by
  have h₂ : step crc8 ⟨⟨fun _ => none, 1, sampleBinding, [], false⟩, [], none, true, [], []⟩
      (.bind 0 0x08 0 9) = some ⟨⟨Function.update (fun _ => none) 0 (some ⟨0x08, 0, 9⟩), 1,
        sampleBinding, [], false⟩, [], none, true, [], []⟩ := rfl
  have h₄ : step crc8 ⟨⟨Function.update (fun _ => none) 0 (some ⟨0x08, 0, 9⟩), 2,
      sampleBinding, [], false⟩, [], none, true, [], []⟩ (.bind 1 0x09 0 9) =
        some ⟨twoSockets [], [], none, true, [], []⟩ := rfl
  exact .cons rfl (hsocket _) (.cons h₂ (hbind _ _ _ _ _) (.cons rfl (hsocket _)
    (.cons h₄ (hbind _ _ _ _ _) .nil)))

end Network

end MctpEmu
