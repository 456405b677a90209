import MctpEmu.Network.Replies

/-!
# Calls that are dropped

The flow of a call that is dropped stays in the list. The datagram that is matched with it panics
the receive loop while the mutex is held, and from then on no reply is delivered and no call can
register.

## Main definitions

* `Network.Answers`: a reply answers a request that was sent.
* `Network.Serves`: the receive loop runs, calls register, and every answered call completes.
* `Network.FlowAttended`: the flow that a datagram is matched with has its caller.

## Main results

* `Network.serves_step_iff`: a step keeps the network serving exactly when its flow is attended.
* `Network.flowAttended_iff_serves`: the runs in which the network serves in every state.
* `Network.not_serves_of_drop`: a dropped call stops the network.
-/

namespace MctpEmu

namespace Network

open SimpleNetwork

/-- A datagram that answers a call is a reply to the request of this call, which has been sent. -/
def Answers (s : State) : Event → Prop
  | .receive (some i) _ buf => i ∈ s.sent ∧ IsReplyTo s i buf
  | _ => True

/-- The receive loop runs, calls of bound sockets can register, and every call that was answered and
not dropped has completed or can complete now. -/
structure Serves (pec : Bytes → UInt8) (s : State) : Prop where
  running : s.handlerRunning = true
  registers : ∀ (sd : Int32) (client : Client) (payload : Bytes) (address : UInt8)
    (network : UInt32) (phyAddr : UInt64), s.net.clients sd = some client →
    ∃ r, (s.net.registerFlow s.calls.length sd payload
      (.extended address network 1 phyAddr)).1 = .ok r
  completes : ∀ i ∈ s.answered, ∀ call : Call, s.calls[i]? = some call →
    call.stage ≠ .dropped → (∃ addr buf, call.stage = .returned addr buf) ∨
      ∃ s' addr buf, step pec s (.resume i) = some s' ∧
        s'.calls[i]? = some (call.goto (.returned addr buf))

/-- The flow that a datagram is matched with belongs to a call that has not ended. A reply does not
answer a call that has panicked, and one that answers a waiting call without a reply is matched
with the flow of this call. -/
def FlowAttended (s : State) : Event → Prop
  | .receive answers _ buf =>
    (∀ flow, s.net.firstFlow buf = some flow → s.isOpen flow.2 = true) ∧
    ∀ i call, answers = some i → s.calls[i]? = some call → call.stage ≠ .panicked ∧
      (call.stage = .waiting → call.reply = none →
        ∀ flow, s.net.firstFlow buf = some flow → flow.2 = i)
  | _ => True

/-! ### Completed calls -/

/-- A call has returned, or it waits and its reply is there. -/
def Call.IsCompleted (call : Call) : Prop :=
  (∃ addr buf, call.stage = .returned addr buf) ∨ call.stage = .waiting ∧ call.reply ≠ none

section

variable {pec : Bytes → UInt8} {s s' : State}

/-- A call can return exactly when it waits and its reply is there. -/
theorem exists_resume_iff {i : ℕ} {call : Call} (hcall : s.calls[i]? = some call) :
    (∃ s' addr buf, step pec s (.resume i) = some s' ∧
        s'.calls[i]? = some (call.goto (.returned addr buf))) ↔
      call.stage = .waiting ∧ call.reply ≠ none := by
  obtain ⟨hlt, -⟩ := List.getElem?_eq_some_iff.mp hcall
  constructor
  · rintro ⟨s', addr, buf, hstep, -⟩
    cases transition_of_resume hstep with
    | resume hc hstage hreply =>
      obtain rfl := Option.some.inj (hc.symm.trans hcall)
      exact ⟨hstage, hreply ▸ Option.some_ne_none _⟩
  · rintro ⟨hstage, hne⟩
    obtain ⟨reply, hreply⟩ := Option.ne_none_iff_exists'.mp hne
    simp only [step, hcall, hstage, hreply]
    exact ⟨_, _, _, rfl, List.getElem?_set_self hlt⟩

theorem Serves.of_isCompleted (hs : WellFormed s) (hrunning : s.handlerRunning = true)
    (h : ∀ i ∈ s.answered, ∀ call : Call, s.calls[i]? = some call → call.stage ≠ .dropped →
      call.IsCompleted) : Serves pec s where
  running := hrunning
  registers sd client payload address network phyAddr hclient := by
    rw [registerFlow_extended _ _ _ _ hclient, hs.poisoned_of_running hrunning]
    exact ⟨_, rfl⟩
  completes i hi call hcall hne :=
    (h i hi call hcall hne).imp_right fun hready => (exists_resume_iff hcall).mpr hready

theorem Serves.isCompleted (h : Serves pec s) {i : ℕ} (hi : i ∈ s.answered) {call : Call}
    (hcall : s.calls[i]? = some call) (hne : call.stage ≠ .dropped) : call.IsCompleted :=
  (h.completes i hi call hcall hne).imp_right (exists_resume_iff hcall).mp

/-- The answered requests were sent. -/
theorem answered_subset_sent_step (hs : WellFormed s) (hsub : ∀ i ∈ s.answered, i ∈ s.sent)
    {e : Event} (hanswer : Answers s e) (h : step pec s e = some s') :
    ∀ i ∈ s'.answered, i ∈ s'.sent := by
  have hreceive : ∀ {answers : Option ℕ} {id : UInt64} {buf : Bytes},
      Answers s (.receive answers id buf) → ∀ i ∈ s.answered ++ answers.toList, i ∈ s.sent := by
    rintro (_ | k) id buf hanswer i hi
    · exact hsub i (by simpa using hi)
    · rcases List.mem_append.mp hi with hi | hi
      · exact hsub i hi
      · obtain rfl := List.mem_singleton.mp hi
        exact hanswer.1
  cases transition_of_step hs.poisoned_of_running h with
  | transmit | abort => exact fun i hi => List.mem_append_left _ (hsub i hi)
  | discard | complete | crash => exact hreceive hanswer
  | _ => exact hsub

/-- What holds in every run in which datagrams answer requests that were sent. -/
structure Answered (s : State) : Prop where
  wellFormed : WellFormed s
  sending : Sending s
  answered : ∀ i ∈ s.answered, i ∈ s.sent

theorem Answered.init (binding : SmbusNetDevBinding) : Answered (Network.init binding) :=
  ⟨.init binding, .init binding, nofun⟩

theorem Answered.step (hs : Answered s) {e : Event} (hanswer : Answers s e)
    (h : Network.step pec s e = some s') : Answered s' :=
  ⟨hs.wellFormed.step h, hs.sending.step hs.wellFormed h,
    answered_subset_sent_step hs.wellFormed hs.answered hanswer h⟩

/-- The calls answered before a step are still completed after it. -/
theorem isCompleted_step (hs : Answered s) (hserves : Serves pec s) {e : Event}
    (h : step pec s e = some s') {i : ℕ} (hi : i ∈ s.answered) {c' : Call}
    (hc' : s'.calls[i]? = some c') (hne : c'.stage ≠ .dropped) : c'.IsCompleted := by
  obtain ⟨c, hc, hleft, -⟩ := hs.sending.sent i (hs.answered i hi)
  cases transition_of_step hs.wellFormed.poisoned_of_running h with
  | register | refuse =>
    rcases KeyedFifo.getElem?_concat_eq_some.mp hc' with hc' | ⟨rfl, -⟩
    · exact hserves.isCompleted hi hc' hne
    · rw [List.getElem?_eq_none le_rfl] at hc
      cases hc
  | @transmit j call sends hcall hstage | @abort j call sends hcall hstage =>
    rcases (getElem?_set_eq_some hcall _).mp hc' with ⟨rfl, rfl⟩ | ⟨-, hc'⟩
    · obtain rfl := Option.some.inj (hc.symm.trans hcall)
      rw [Call.hasLeft, hstage] at hleft
      cases hleft
    · exact hserves.isCompleted hi hc' hne
  | @resume j call reply hcall hstage hreply =>
    rcases (getElem?_set_eq_some hcall _).mp hc' with ⟨rfl, rfl⟩ | ⟨-, hc'⟩
    · exact .inl ⟨_, _, rfl⟩
    · exact hserves.isCompleted hi hc' hne
  | @drop j call hcall hopen =>
    rcases (getElem?_set_eq_some hcall _).mp hc' with ⟨rfl, rfl⟩ | ⟨-, hc'⟩
    · exact absurd rfl hne
    · exact hserves.isCompleted hi hc' hne
  | @complete answers id buf recvTag flow hrunning hfirst htag hfind hopen =>
    obtain ⟨call, -, -, -, hcall, -⟩ :=
      hs.wellFormed.flow flow (List.mem_of_find?_eq_some hfind)
    rcases (getElem?_modify_eq_some hcall _).mp hc' with ⟨rfl, rfl⟩ | ⟨-, hc'⟩
    · refine (hserves.isCompleted hi hcall hne).imp_right ?_
      rintro ⟨hstage, -⟩
      exact ⟨hstage, Option.some_ne_none _⟩
    · exact hserves.isCompleted hi hc' hne
  | _ => exact hserves.isCompleted hi hc' hne

/-- A reply to a call that waits without a reply is matched with a flow. -/
theorem exists_firstFlow_of_waiting (hs : WellFormed s) {i : ℕ} {call : Call} {buf : Bytes}
    (hcall : s.calls[i]? = some call) (hstage : call.stage = .waiting) (hnone : call.reply = none)
    (hreply : IsReplyTo s i buf) : ∃ flow, s.net.firstFlow buf = some flow := by
  obtain ⟨tag, hmem⟩ := hs.pending i call hcall (call.isOpen_iff.mpr (.inr hstage)) hnone
  obtain ⟨c, client, address, payload, hc, -, htag, hpacket⟩ := hs.flow (tag, i) hmem
  obtain rfl := Option.some.inj (hc.symm.trans hcall)
  rw [firstFlow_of_isReplyTo hs hcall hpacket hreply]
  refine Option.isSome_iff_exists.mp (List.find?_isSome.mpr ⟨(tag, i), hmem, ?_⟩)
  obtain rfl : tag = flowTag client address := htag
  rw [flowKey_flowTag]
  exact decide_eq_true rfl

/-! ### One step -/

/-- A datagram whose flow is attended leaves the network serving. -/
theorem serves_receive (hs : Answered s) (hserves : Serves pec s) {answers : Option ℕ}
    {id : UInt64} {buf : Bytes} (hanswer : Answers s (.receive answers id buf))
    (hattended : FlowAttended s (.receive answers id buf))
    (h : step pec s (.receive answers id buf) = some s') : Serves pec s' := by
  obtain ⟨hopen, hown⟩ := hattended
  have hs' := hs.step hanswer h
  -- A call answered just now has left the queue for the lock, and has not panicked.
  have hnew : ∀ i ∈ answers.toList, ∀ call : Call, s.calls[i]? = some call →
      call.stage ≠ .dropped → ¬ call.IsCompleted →
      call.stage = .waiting ∧ ∃ flow, s.net.firstFlow buf = some flow ∧ flow.2 = i := by
    intro i hi call hcall hne hnot
    obtain rfl := Option.mem_toList.mp hi
    obtain ⟨hsent, hreply⟩ := hanswer
    obtain ⟨c, hc, hleft, -⟩ := hs.sending.sent i hsent
    obtain rfl := Option.some.inj (hc.symm.trans hcall)
    obtain ⟨hpanic, hfirst⟩ := hown i c rfl hcall
    have hwait : c.stage = .waiting := by
      cases hstage : c.stage with
      | waiting => rfl
      | returned addr buf => exact absurd (.inl ⟨addr, buf, hstage⟩) hnot
      | panicked => exact absurd hstage hpanic
      | dropped => exact absurd hstage hne
      | locking | failed =>
        rw [Call.hasLeft, hstage] at hleft
        cases hleft
    have hnone : c.reply = none := by
      by_contra hsome
      exact hnot (.inr ⟨hwait, hsome⟩)
    obtain ⟨flow, hflow⟩ := exists_firstFlow_of_waiting hs.wellFormed hcall hwait hnone hreply
    exact ⟨hwait, flow, hflow, hfirst hwait hnone flow hflow⟩
  suffices hkeep : s'.handlerRunning = true ∧ s'.answered = s.answered ++ answers.toList ∧
      ∀ i ∈ answers.toList, ∀ call : Call, s'.calls[i]? = some call → call.stage ≠ .dropped →
        call.IsCompleted by
    obtain ⟨hrunning, hanswered, hlast⟩ := hkeep
    refine .of_isCompleted hs'.wellFormed hrunning fun i hi call hcall hne => ?_
    rw [hanswered] at hi
    rcases List.mem_append.mp hi with hi | hi
    · exact isCompleted_step hs hserves h hi hcall hne
    · exact hlast i hi call hcall hne
  cases transition_of_step hs.wellFormed.poisoned_of_running h with
  | discard answers id hdiscard =>
    refine ⟨hserves.running, rfl, fun i hi call hcall hne => ?_⟩
    by_contra hnot
    obtain ⟨-, flow, hflow, -⟩ := hnew i hi call hcall hne hnot
    rcases hdiscard with hstopped | hnone
    · rw [hserves.running] at hstopped
      cases hstopped
    · rw [hnone] at hflow
      cases hflow
  | @complete answers id buf recvTag flow hrunning hfirst htag hfind hopened =>
    refine ⟨hrunning, rfl, fun i hi c' hc' hne => ?_⟩
    obtain ⟨call, -, -, -, hcall, -⟩ :=
      hs.wellFormed.flow flow (List.mem_of_find?_eq_some hfind)
    by_contra hnot
    rcases (getElem?_modify_eq_some hcall _).mp hc' with ⟨rfl, rfl⟩ | ⟨hi', hc'⟩
    · have hcompleted : ¬ call.IsCompleted := fun hdone =>
        hnot (hdone.imp_right fun hready => ⟨hready.1, Option.some_ne_none _⟩)
      obtain ⟨hwait, -⟩ := hnew _ hi call hcall hne hcompleted
      exact hnot (.inr ⟨hwait, Option.some_ne_none _⟩)
    · obtain ⟨-, flow', hflow', rfl⟩ := hnew i hi c' hc' hne hnot
      obtain rfl := Option.some.inj (hfirst.symm.trans hflow')
      exact hi' rfl
  | @crash answers id buf recvTag flow hrunning hfirst htag hfind hclosed =>
    rw [hopen flow hfirst] at hclosed
    cases hclosed

/-- A datagram keeps every call, and gives a reply to none but the one that it is matched with. -/
theorem exists_call_of_receive (hs : WellFormed s) {answers : Option ℕ} {id : UInt64} {buf : Bytes}
    (h : step pec s (.receive answers id buf) = some s') {i : ℕ} {call : Call}
    (hcall : s.calls[i]? = some call) :
    s'.answered = s.answered ++ answers.toList ∧ ∃ c' : Call, s'.calls[i]? = some c' ∧
      c'.stage = call.stage ∧
      (c'.reply ≠ call.reply → ∃ flow, s.net.firstFlow buf = some flow ∧ flow.2 = i) := by
  cases transition_of_step hs.poisoned_of_running h with
  | discard | crash => exact ⟨rfl, call, hcall, rfl, fun hne => absurd rfl hne⟩
  | @complete answers id buf recvTag flow hrunning hfirst htag hfind hopen =>
    obtain ⟨c, -, -, -, hc, -⟩ := hs.flow flow (List.mem_of_find?_eq_some hfind)
    refine ⟨rfl, ?_⟩
    by_cases hi : i = flow.2
    · subst hi
      obtain rfl := Option.some.inj (hc.symm.trans hcall)
      exact ⟨_, (getElem?_modify_eq_some hc _).mpr (.inl ⟨rfl, rfl⟩), rfl,
        fun _ => ⟨flow, hfirst, rfl⟩⟩
    · exact ⟨call, (getElem?_modify_eq_some hc _).mpr (.inr ⟨hi, hcall⟩), rfl,
        fun hne => absurd rfl hne⟩

/-- A datagram that leaves the network serving was matched with an attended flow. -/
theorem flowAttended_of_serves (hs : Answered s) {answers : Option ℕ} {id : UInt64} {buf : Bytes}
    (h : step pec s (.receive answers id buf) = some s') (hserves : Serves pec s)
    (hafter : Serves pec s') : FlowAttended s (.receive answers id buf) := by
  refine ⟨fun flow hflow => ?_, ?_⟩
  · cases transition_of_step hs.wellFormed.poisoned_of_running h with
    | discard answers id hdiscard =>
      rw [hserves.running, hflow] at hdiscard
      rcases hdiscard with hstopped | hnone
      · cases hstopped
      · cases hnone
    | complete answers id hrunning hfirst htag hfind hopen =>
      obtain rfl := Option.some.inj (hfirst.symm.trans hflow)
      exact hopen
    | crash => exact absurd hafter.running nofun
  · rintro i call rfl hcall
    obtain ⟨hanswered, c', hc', hstage, hmatched⟩ := exists_call_of_receive hs.wellFormed h hcall
    have hmem : i ∈ s'.answered := by
      rw [hanswered]
      exact List.mem_append_right _ (List.mem_singleton_self i)
    have hdone := hafter.isCompleted hmem hc'
    rw [Call.IsCompleted, hstage] at hdone
    refine ⟨fun hpanic => ?_, fun hwait hnone flow hflow => ?_⟩
    · rw [hpanic] at hdone
      rcases hdone nofun with ⟨addr, buf, hreturned⟩ | ⟨hwait, -⟩
      · cases hreturned
      · cases hwait
    · rw [hwait] at hdone
      rcases hdone nofun with ⟨addr, buf, hreturned⟩ | ⟨-, hsome⟩
      · cases hreturned
      · rw [← hnone] at hsome
        obtain ⟨flow', hflow', hi⟩ := hmatched hsome
        obtain rfl := Option.some.inj (hflow.symm.trans hflow')
        exact hi

/-- From a state in which the network serves, a step leads to another one exactly when its flow is
attended. -/
theorem serves_step_iff (hs : Answered s) (hserves : Serves pec s) {e : Event}
    (hanswer : Answers s e) (h : step pec s e = some s') : Serves pec s' ↔ FlowAttended s e := by
  cases e with
  | receive answers id buf =>
    exact ⟨flowAttended_of_serves hs h hserves, fun hattended =>
      serves_receive hs hserves hanswer hattended h⟩
  | _ =>
    refine ⟨fun _ => trivial, fun _ => ?_⟩
    have hwell := hs.wellFormed.step h
    have hsame : s'.handlerRunning = s.handlerRunning ∧ s'.answered = s.answered := by
      cases transition_of_step hs.wellFormed.poisoned_of_running h <;> exact ⟨rfl, rfl⟩
    refine .of_isCompleted hwell (hsame.1.trans hserves.running) fun i hi call hcall hne => ?_
    rw [hsame.2] at hi
    exact isCompleted_step hs hserves h hi hcall hne

theorem Serves.init (pec : Bytes → UInt8) (binding : SmbusNetDevBinding) :
    Serves pec (Network.init binding) :=
  .of_isCompleted (.init binding) rfl nofun

end

/-- **When the network serves.** Among the runs in which datagrams answer requests that were sent,
the network serves in every state of a run exactly when every datagram of the run finds its flow
attended. -/
theorem flowAttended_iff_serves (pec : Bytes → UInt8) (binding : SmbusNetDevBinding)
    (es : List Event) (s : State) (h : StepSystem.Run (step pec) Answers (init binding) es s) :
    StepSystem.Run (step pec) (fun s e => Answers s e ∧ FlowAttended s e) (init binding) es s ↔
      ∀ es' s', es' <+: es → StepSystem.Run (step pec) Answers (init binding) es' s' →
        Serves pec s' :=
  h.and_iff_forall_prefix (I := Answered) (.init binding)
    (fun _ _ _ hs hanswer hstep => hs.step hanswer hstep) (.init pec binding)
    fun _ _ _ hs hserves hanswer hstep => serves_step_iff hs hserves hanswer hstep

/-- The first exchange of a network finds its flow attended. -/
theorem flowAttended_iff_serves_firstExchange :
    ∃ es s, StepSystem.Run (step crc8) Answers (init sampleBinding) es s ∧
      ∀ es' s', es' <+: es → StepSystem.Run (step crc8) Answers (init sampleBinding) es' s' →
        Serves crc8 s' := by
  have hreply : Answers ⟨twoSockets [(⟨0x0A, 0x08, 1, true⟩, 0)],
      [sampleCall 0x08 0x02 .waiting none], some 0, true, [0, 0], []⟩
      (.receive (some 0) 1 (sampleReply 0x08 0x02)) :=
    ⟨List.mem_cons_self, isReplyTo_sampleReply rfl⟩
  have hattended : FlowAttended ⟨twoSockets [(⟨0x0A, 0x08, 1, true⟩, 0)],
      [sampleCall 0x08 0x02 .waiting none], some 0, true, [0, 0], []⟩
      (.receive (some 0) 1 (sampleReply 0x08 0x02)) := by
    refine ⟨fun flow hflow => ?_, ?_⟩
    · obtain rfl := Option.some.inj hflow
      rfl
    · rintro i call hi hcall
      obtain rfl := Option.some.inj hi
      obtain rfl := Option.some.inj hcall
      refine ⟨nofun, fun _ _ flow hflow => ?_⟩
      obtain rfl := Option.some.inj hflow
      rfl
  have hrun := run_firstExchange (C := Answers) (fun _ => trivial) (fun _ _ _ _ _ => trivial)
    (fun _ _ _ _ => trivial) (fun _ _ => trivial) trivial hreply
  have hgood := run_firstExchange (C := fun s e => Answers s e ∧ FlowAttended s e)
    (fun _ => ⟨trivial, trivial⟩) (fun _ _ _ _ _ => ⟨trivial, trivial⟩)
    (fun _ _ _ _ => ⟨trivial, trivial⟩) (fun _ _ => ⟨trivial, trivial⟩) ⟨trivial, trivial⟩
    ⟨hreply, hattended⟩
  exact ⟨_, _, hrun, (flowAttended_iff_serves crc8 sampleBinding _ _ hrun).mp hgood⟩

/-- The reply to a call that was dropped ends the receive loop, and a later call of another socket
panics instead of registering. -/
theorem not_serves_of_drop :
    ∃ es s, StepSystem.Run (step crc8) Answers (init sampleBinding) es s ∧
      s.handlerRunning = false ∧ ¬ Serves crc8 s ∧
      (s.net.registerFlow 1 1 [0x00, 0x80, 0x04] (.extended 0x0A 1 1 0x25)).1 =
        .panic "PoisonError" := by
  have hopen : StepSystem.Run (step crc8) Answers (init sampleBinding) openTwoSockets
      ⟨twoSockets [], [], none, true, [], []⟩ :=
    run_openTwoSockets (fun _ => trivial) fun _ _ _ _ _ => trivial
  have h₁ : step crc8 ⟨twoSockets [], [], none, true, [], []⟩
      (.sendto 0 [0x00, 0x80, 0x02] (.extended 0x0A 1 1 0x25)) =
      some ⟨twoSockets [(⟨0x0A, 0x08, 1, true⟩, 0)], [sampleCall 0x08 0x02 .locking none], none,
        true, [], []⟩ := rfl
  have h₂ : step crc8 ⟨twoSockets [(⟨0x0A, 0x08, 1, true⟩, 0)],
      [sampleCall 0x08 0x02 .locking none], none, true, [], []⟩ (.transmit 0 (.ok 12, .ok 12)) =
      some ⟨twoSockets [(⟨0x0A, 0x08, 1, true⟩, 0)], [sampleCall 0x08 0x02 .waiting none], some 0,
        true, [0, 0], []⟩ := rfl
  have h₃ : step crc8 ⟨twoSockets [(⟨0x0A, 0x08, 1, true⟩, 0)],
      [sampleCall 0x08 0x02 .waiting none], some 0, true, [0, 0], []⟩ (.drop 0) =
      some ⟨twoSockets [(⟨0x0A, 0x08, 1, true⟩, 0)], [sampleCall 0x08 0x02 .dropped none], none,
        true, [0, 0], []⟩ := rfl
  have h₄ : step crc8 ⟨twoSockets [(⟨0x0A, 0x08, 1, true⟩, 0)],
      [sampleCall 0x08 0x02 .dropped none], none, true, [0, 0], []⟩
      (.receive (some 0) 1 (sampleReply 0x08 0x02)) =
      some ⟨{ twoSockets [] with flowsPoisoned := true },
        [sampleCall 0x08 0x02 .dropped none], none, false, [0, 0], [0]⟩ := rfl
  have hrun := (((hopen.snoc h₁ trivial).snoc h₂ trivial).snoc h₃ trivial).snoc h₄
    ⟨List.mem_cons_self, isReplyTo_sampleReply rfl⟩
  exact ⟨_, _, hrun, rfl, fun hserves => absurd hserves.running nofun, rfl⟩

end Network

end MctpEmu
