import MctpEmu.Network.Replies

/-!
# Calls and the replies to their own requests

A reply completes the oldest flow with its destination and tag, which need not be the flow of the
request it answers. A call that waits holds the lock of the binding, so a request goes out only
after the one before it has ended; but every frame is sent twice, so a request can be answered a
second time after its call has returned, and a call that is dropped leaves its reply behind. Either
reply can complete the call of another request.

## Main definitions

* `Network.OwnReplies`: every call that has completed returned the reply to its own request.
* `Network.PeersAnswer`: the peers answer each frame once.
* `Network.OwnFlowFirst`, `Network.Undisturbed`: two conditions under which replies are not mixed
  up.

## Main results

* `Network.ownLabels_run`, `Network.exclusive_run`: the invariants of the two kinds of runs.
* `Network.ownReplies_of_run`: calls return the replies to their own requests.
* `Network.not_ownReplies_of_peersAnswer`: without the conditions they do not.
-/

namespace MctpEmu

namespace Network

open SimpleNetwork

/-- Every call that has completed returned the reply to its own request. -/
def OwnReplies (s : State) : Prop :=
  ∀ (i : ℕ) (call : Call) (addr : SocketAddress) (buf : Bytes), s.calls[i]? = some call →
    call.stage = .returned addr buf → call.reply = some ⟨some i, .receive addr buf⟩

/-- Every datagram is a reply to the request of a call, one for each frame that was sent. -/
def PeersAnswer (s : State) : Event → Prop
  | .receive answers _ buf =>
    ∃ i, answers = some i ∧ s.answered.count i < s.sent.count i ∧ IsReplyTo s i buf
  | _ => True

/-- When a reply arrives, the oldest flow with the destination and the tag of the request is the one
of this request, unless there is none. -/
def OwnFlowFirst (s : State) : Event → Prop
  | .receive (some i) _ _ => ∀ call tag flow, s.calls[i]? = some call →
    createTag call.packet = some tag →
    s.net.flows.find? (fun flow => flowKey flow = (tag.destEid, tag.msgTag)) = some flow →
    flow.2 = i
  | _ => True

/-- A failing transmission sends no whole frame, no call is dropped while it waits, and no request
is answered a second time. -/
def Undisturbed (pec : Bytes → UInt8) (s : State) : Event → Prop
  | .transmit i sends => ∀ call, s.calls[i]? = some call →
    s.net.physBindings.Transmits pec sends call.packet call.phyAddr ∨
      wholeFrames i (s.net.physBindings.transmit pec sends call.packet call.phyAddr).2 = []
  | .drop i => ∀ call, s.calls[i]? = some call → call.stage ≠ .waiting
  | .receive (some i) _ _ => i ∉ s.answered
  | _ => True

theorem mem_sent_of_peersAnswer {s : State} {answers : Option ℕ} {id : UInt64} {buf : Bytes}
    (h : PeersAnswer s (.receive answers id buf)) :
    ∃ i, answers = some i ∧ i ∈ s.sent ∧ IsReplyTo s i buf := by
  obtain ⟨i, hi, hcount, hreply⟩ := h
  exact ⟨i, hi, List.count_pos_iff.mp (Nat.zero_lt_of_lt hcount), hreply⟩

variable {pec : Bytes → UInt8} {binding : SmbusNetDevBinding}

/-! ### Runs in which each reply finds its own flow first -/

/-- Whatever has come to a channel answers the request of its call. -/
def OwnLabels (s : State) : Prop :=
  ∀ (i : ℕ) (call : Call) (r : Reply), s.calls[i]? = some call → call.reply = some r →
    r.answers = some i

theorem OwnLabels.ownReplies {s : State} (hs : WellFormed s) (h : OwnLabels s) :
    OwnReplies s := by
  intro i call addr buf hcall hstage
  obtain ⟨r, hr, hresponse⟩ := hs.returned i call addr buf hcall hstage
  rw [hr, ← h i call r hcall hr, ← hresponse]

/-- A reply that finds the flow of its request first goes to the channel of its call. -/
theorem OwnLabels.step {s s' : State} {e : Event} (hs : WellFormed s) (hsending : Sending s)
    (hown : OwnLabels s) (hanswer : PeersAnswer s e) (hfirst : OwnFlowFirst s e)
    (h : Network.step pec s e = some s') : OwnLabels s' := by
  intro i c' r hc' hr
  rcases reply_of_step hs h hc' hr with ⟨c, hc, hold⟩ | ⟨id, buf, flow, rfl, -, hflow, -, hi⟩
  · exact hown i c r hc hold
  · obtain ⟨k, hk, hsent, hreply⟩ := mem_sent_of_peersAnswer hanswer
    obtain ⟨call, hcall, -, client, address, payload, hpacket⟩ := hsending.sent k hsent
    rw [hk] at hfirst ⊢
    rw [firstFlow_of_isReplyTo hs hcall hpacket hreply] at hflow
    have htag : createTag call.packet = some (flowTag client address) := by
      rw [hpacket, createTag_packet]
    rw [← hi, hfirst call _ flow hcall htag]
    simpa only [flowTag, lowBits_three] using hflow

theorem ownLabels_run {es : List Event} {s : State}
    (h : StepSystem.Run (step pec) (fun s e => PeersAnswer s e ∧ OwnFlowFirst s e)
      (init binding) es s) : OwnLabels s := by
  refine (h.invariant (I := fun s => (WellFormed s ∧ Sending s) ∧ OwnLabels s)
    ⟨⟨.init binding, .init binding⟩, fun _ _ _ hcall => absurd hcall not_call_init⟩ ?_).2
  rintro s e s' ⟨⟨hs, hsending⟩, hown⟩ ⟨hanswer, hfirst⟩ hstep
  exact ⟨⟨hs.step hstep, hsending.step hs hstep⟩, hown.step hs hsending hanswer hfirst hstep⟩

/-! ### Runs with one exchange at a time -/

/-- One exchange at a time: what has come to a channel answers the request of its call, or else it
answers the call that holds the lock, which has then missed its reply; the requests that were
sent are those of the holder and of the calls that have returned. -/
structure Exclusive (s : State) : Prop where
  label : ∀ (j : ℕ) (call : Call) (r : Reply), s.calls[j]? = some call → call.reply = some r →
    r.answers = some j ∨ (∀ addr buf, call.stage ≠ .returned addr buf) ∧
      ∃ (h : ℕ) (holder : Call), s.bindingHolder = some h ∧ h ≠ j ∧ r.answers = some h ∧
        s.calls[h]? = some holder ∧ holder.reply = none
  received : ∀ (j k : ℕ) (call : Call) (r : Reply), s.calls[j]? = some call →
    call.reply = some r → r.answers = some k → k ∈ s.answered
  sent : ∀ i ∈ s.sent, s.bindingHolder = some i ∨
    ∃ (call : Call) (addr : SocketAddress) (buf : Bytes),
      s.calls[i]? = some call ∧ call.stage = .returned addr buf
  answered : ∀ i ∈ s.answered, i ∈ s.sent

namespace Exclusive

variable {s : State}

theorem init (binding : SmbusNetDevBinding) : Exclusive (Network.init binding) where
  label _ _ _ hcall := absurd hcall not_call_init
  received _ _ _ _ hcall := absurd hcall not_call_init
  sent := nofun
  answered := nofun

theorem ownReplies (hs : WellFormed s) (h : Exclusive s) : OwnReplies s := by
  intro i call addr buf hcall hstage
  obtain ⟨r, hr, hresponse⟩ := hs.returned i call addr buf hcall hstage
  rcases h.label i call r hcall hr with hown | ⟨hnot, -⟩
  · rw [hr, ← hown, ← hresponse]
  · exact absurd hstage (hnot addr buf)

/-- Without a holder, and with one that has its reply, every label is its call's own. -/
theorem label_own (hx : Exclusive s)
    (hholder : ∀ h holder, s.bindingHolder = some h → s.calls[h]? = some holder →
      holder.reply ≠ none) : OwnLabels s := by
  intro j call r hcall hr
  rcases hx.label j call r hcall hr with hown | ⟨-, h, holder, hh, -, -, hc, hnone⟩
  · exact hown
  · exact absurd hnone (hholder h holder hh hc)

/-- Where no label is foreign, the invariant asks for less. -/
theorem of_ownLabels (hown : OwnLabels s)
    (hreceived : ∀ (j : ℕ) (call : Call) (r : Reply), s.calls[j]? = some call →
      call.reply = some r → j ∈ s.answered)
    (hsent : ∀ i ∈ s.sent, s.bindingHolder = some i ∨
      ∃ (call : Call) (addr : SocketAddress) (buf : Bytes),
        s.calls[i]? = some call ∧ call.stage = .returned addr buf)
    (hanswered : ∀ i ∈ s.answered, i ∈ s.sent) : Exclusive s where
  label j call r hcall hr := .inl (hown j call r hcall hr)
  received j k call r hcall hr hk := by
    obtain rfl := Option.some.inj ((hown j call r hcall hr).symm.trans hk)
    exact hreceived j call r hcall hr
  sent := hsent
  answered := hanswered

/-- A new call has no reply and holds no lock. -/
theorem concat (hx : Exclusive s) (net : SimpleNetwork) {call : Call} (hreply : call.reply = none) :
    Exclusive { s with net := net, calls := s.calls ++ [call] } where
  label j c r hc hr := by
    rcases KeyedFifo.getElem?_concat_eq_some.mp hc with hc | ⟨rfl, rfl⟩
    · refine (hx.label j c r hc hr).imp_right ?_
      rintro ⟨hnot, h, holder, hh, hne, hk, hcall, hnone⟩
      exact ⟨hnot, h, holder, hh, hne, hk, KeyedFifo.getElem?_concat_eq_some.mpr (.inl hcall),
        hnone⟩
    · rw [hreply] at hr
      cases hr
  received j k c r hc hr hk := by
    rcases KeyedFifo.getElem?_concat_eq_some.mp hc with hc | ⟨rfl, rfl⟩
    · exact hx.received j k c r hc hr hk
    · rw [hreply] at hr
      cases hr
  sent i hi := by
    refine (hx.sent i hi).imp_right ?_
    rintro ⟨c, addr, buf, hc, hstage⟩
    exact ⟨c, addr, buf, KeyedFifo.getElem?_concat_eq_some.mpr (.inl hc), hstage⟩
  answered := hx.answered

/-- Where every label is its call's own, a call may go on and pass on the lock. -/
theorem goto (hx : Exclusive s) (hown : OwnLabels s) {i : ℕ} {call : Call} {stage : Stage}
    {holder : Option ℕ} {sent : List ℕ} (hcall : s.calls[i]? = some call)
    (hsent : ∀ j ∈ sent, holder = some j ∨ (j = i ∧ ∃ addr buf, stage = .returned addr buf) ∨
      j ≠ i ∧ ∃ (c : Call) (addr : SocketAddress) (buf : Bytes),
        s.calls[j]? = some c ∧ c.stage = .returned addr buf)
    (hmono : ∀ j ∈ s.sent, j ∈ sent) :
    Exclusive { s with
      calls := s.calls.set i (call.goto stage), bindingHolder := holder, sent := sent } := by
  refine of_ownLabels ?_ ?_ ?_ fun j hj => hmono j (hx.answered j hj)
  · intro j c r hc hr
    rcases (getElem?_set_eq_some hcall _).mp hc with ⟨rfl, rfl⟩ | ⟨-, hc⟩
    · exact hown j call r hcall hr
    · exact hown j c r hc hr
  · intro j c r hc hr
    rcases (getElem?_set_eq_some hcall _).mp hc with ⟨rfl, rfl⟩ | ⟨-, hc⟩
    · exact hx.received j j call r hcall hr (hown j call r hcall hr)
    · exact hx.received j j c r hc hr (hown j c r hc hr)
  · intro j hj
    rcases hsent j hj with hholder | ⟨rfl, addr, buf, hstage⟩ | ⟨hne, c, addr, buf, hc, hstage⟩
    · exact .inl hholder
    · exact .inr ⟨_, addr, buf, (getElem?_set_eq_some hcall _).mpr (.inl ⟨rfl, rfl⟩), hstage⟩
    · exact .inr ⟨c, addr, buf, (getElem?_set_eq_some hcall _).mpr (.inr ⟨hne, hc⟩), hstage⟩

/-- A call that does not hold the lock may be dropped. -/
theorem drop (hx : Exclusive s) {i : ℕ} {call : Call} (hcall : s.calls[i]? = some call)
    (hopen : call.isOpen = true) (hholder : s.bindingHolder ≠ some i) :
    Exclusive { s with calls := s.calls.set i (call.goto .dropped) } where
  label j c r hc hr := by
    have hkeep : ∀ (h : ℕ) (holder : Call), s.bindingHolder = some h → s.calls[h]? = some holder →
        (s.calls.set i (call.goto .dropped))[h]? = some holder := by
      intro h holder hh hc
      refine (getElem?_set_eq_some hcall _).mpr (.inr ⟨?_, hc⟩)
      rintro rfl
      exact hholder hh
    rcases (getElem?_set_eq_some hcall _).mp hc with ⟨rfl, rfl⟩ | ⟨-, hc⟩
    · refine (hx.label j call r hcall hr).imp_right ?_
      rintro ⟨-, h, holder, hh, hne, hk, hc, hnone⟩
      exact ⟨nofun, h, holder, hh, hne, hk, hkeep h holder hh hc, hnone⟩
    · refine (hx.label j c r hc hr).imp_right ?_
      rintro ⟨hnot, h, holder, hh, hne, hk, hc, hnone⟩
      exact ⟨hnot, h, holder, hh, hne, hk, hkeep h holder hh hc, hnone⟩
  received j k c r hc hr hk := by
    rcases (getElem?_set_eq_some hcall _).mp hc with ⟨rfl, rfl⟩ | ⟨-, hc⟩
    · exact hx.received j k call r hcall hr hk
    · exact hx.received j k c r hc hr hk
  sent j hj := by
    refine (hx.sent j hj).imp_right ?_
    rintro ⟨c, addr, buf, hc, hstage⟩
    refine ⟨c, addr, buf, (getElem?_set_eq_some hcall _).mpr (.inr ⟨?_, hc⟩), hstage⟩
    rintro rfl
    obtain rfl := Option.some.inj (hc.symm.trans hcall)
    rcases c.isOpen_iff.mp hopen with hopen | hopen <;> rw [hstage] at hopen <;> cases hopen
  answered := hx.answered

/-- A reply that reaches no channel. -/
theorem answer (hx : Exclusive s) (net : SimpleNetwork) (running : Bool) {k : ℕ}
    (hk : k ∈ s.sent) :
    Exclusive { s with net := net, handlerRunning := running, answered := s.answered ++ [k] } where
  label := hx.label
  received j k' c r hc hr hk' := List.mem_append_left _ (hx.received j k' c r hc hr hk')
  sent := hx.sent
  answered j hj := by
    rcases List.mem_append.mp hj with hj | hj
    · exact hx.answered j hj
    · rwa [List.mem_singleton.mp hj]

/-- A request that has been sent but not answered is the one of the holder, which has had no reply,
and then every label is its call's own. -/
theorem of_unanswered (hs : WellFormed s) (hx : Exclusive s) {k : ℕ} (hk : k ∈ s.sent)
    (hnew : k ∉ s.answered) :
    s.bindingHolder = some k ∧ (∃ holder, s.calls[k]? = some holder ∧ holder.reply = none) ∧
      OwnLabels s := by
  have hholder : s.bindingHolder = some k := by
    refine (hx.sent k hk).resolve_right ?_
    rintro ⟨c, addr, buf, hc, hstage⟩
    obtain ⟨r, hr, -⟩ := hs.returned k c addr buf hc hstage
    rcases hx.label k c r hc hr with hown | ⟨hnot, -⟩
    · exact hnew (hx.received k k c r hc hr hown)
    · exact hnot addr buf hstage
  obtain ⟨holder, hcall⟩ := hs.holder k hholder
  refine ⟨hholder, ⟨holder, hcall, ?_⟩, fun j c r hc hr => ?_⟩
  · refine Option.eq_none_iff_forall_ne_some.mpr fun r hr => ?_
    rcases hx.label k holder r hcall hr with hown | ⟨-, h, -, hh, hne, -⟩
    · exact hnew (hx.received k k holder r hcall hr hown)
    · exact hne (Option.some.inj (hh.symm.trans hholder))
  · refine (hx.label j c r hc hr).resolve_right ?_
    rintro ⟨-, h, -, hh, -, hlabel, -⟩
    obtain rfl := Option.some.inj (hh.symm.trans hholder)
    exact hnew (hx.received j h c r hc hr hlabel)

/-- The first reply to a request completes its call, or a call that still waits for the lock. -/
theorem complete (hs : WellFormed s) (hx : Exclusive s) (net : SimpleNetwork) {k : ℕ}
    (hk : k ∈ s.sent) (hnew : k ∉ s.answered) {i : ℕ} {call : Call}
    (hcall : s.calls[i]? = some call) (hopen : call.isOpen = true)
    (response : ClientCallbackMsg) :
    Exclusive { s with
      net := net
      calls := s.calls.modify i fun call => { call with reply := some ⟨some k, response⟩ }
      answered := s.answered ++ [k] } := by
  obtain ⟨hholder, ⟨holder, hkcall, hnone⟩, hown⟩ := of_unanswered hs hx hk hnew
  refine ⟨?_, ?_, ?_, (hx.answer net s.handlerRunning hk).answered⟩
  · intro j c r hc hr
    rcases (getElem?_modify_eq_some hcall _).mp hc with ⟨rfl, rfl⟩ | ⟨-, hc⟩
    · obtain rfl := Option.some.inj hr
      by_cases hkj : k = j
      · exact .inl (congrArg some hkj)
      · refine .inr ⟨fun addr buf hstage => ?_, k, holder, hholder, hkj, rfl,
          (getElem?_modify_eq_some hcall _).mpr (.inr ⟨hkj, hkcall⟩), hnone⟩
        have hstage' : call.stage = .returned addr buf := hstage
        rcases call.isOpen_iff.mp hopen with hopen | hopen <;> rw [hstage'] at hopen <;>
          cases hopen
    · exact .inl (hown j c r hc hr)
  · intro j k' c r hc hr hk'
    rcases (getElem?_modify_eq_some hcall _).mp hc with ⟨rfl, rfl⟩ | ⟨-, hc⟩
    · obtain rfl := Option.some.inj hr
      obtain rfl := Option.some.inj hk'
      exact List.mem_append_right _ (List.mem_singleton_self _)
    · exact List.mem_append_left _ (hx.received j k' c r hc hr hk')
  · intro j hj
    refine (hx.sent j hj).imp_right ?_
    rintro ⟨c, addr, buf, hc, hstage⟩
    by_cases hji : j = i
    · obtain rfl := Option.some.inj (hc.symm.trans (hji ▸ hcall))
      exact ⟨_, addr, buf, (getElem?_modify_eq_some hcall _).mpr (.inl ⟨hji, rfl⟩), hstage⟩
    · exact ⟨c, addr, buf, (getElem?_modify_eq_some hcall _).mpr (.inr ⟨hji, hc⟩), hstage⟩

/-- An undisturbed step keeps the exchanges apart. -/
theorem step {s' : State} {e : Event} (hs : WellFormed s) (hx : Exclusive s)
    (hanswer : PeersAnswer s e) (hcalm : Undisturbed pec s e)
    (h : Network.step pec s e = some s') : Exclusive s' := by
  -- A call that has returned is none that has not ended.
  have hreturned : ∀ {i : ℕ} {call : Call}, s.calls[i]? = some call → call.isOpen = true →
      ∀ j ∈ s.sent, s.bindingHolder = some j ∨
        j ≠ i ∧ ∃ (c : Call) (addr : SocketAddress) (buf : Bytes),
          s.calls[j]? = some c ∧ c.stage = .returned addr buf := by
    intro i call hcall hopen j hj
    refine (hx.sent j hj).imp_right ?_
    rintro ⟨c, addr, buf, hc, hstage⟩
    refine ⟨?_, c, addr, buf, hc, hstage⟩
    rintro rfl
    obtain rfl := Option.some.inj (hc.symm.trans hcall)
    rw [Call.isOpen, hstage] at hopen
    cases hopen
  cases transition_of_step hs.poisoned_of_running h with
  | socket => exact ⟨hx.label, hx.received, hx.sent, hx.answered⟩
  | bind sd address msgType tag => exact ⟨hx.label, hx.received, hx.sent, hx.answered⟩
  | register payload address network phyAddr hclient hpoison => exact hx.concat _ rfl
  | refuse payload hrefused hstage hreply => exact hx.concat s.net hreply
  | @transmit i call sends hcall hstage hholder hsent =>
    have hown := hx.label_own fun h _ hh => by rw [hholder] at hh; cases hh
    refine hx.goto hown hcall (fun j hj => ?_) fun j hj => List.mem_append_left _ hj
    rcases List.mem_append.mp hj with hj | hj
    · rcases hreturned hcall (call.isOpen_iff.mpr (.inl hstage)) j hj with hh | hret
      · rw [hholder] at hh
        cases hh
      · exact .inr (.inr hret)
    · exact .inl (congrArg some (mem_wholeFrames hj).symm)
  | @abort i call sends hcall hstage hholder hsent =>
    have hown := hx.label_own fun h _ hh => by rw [hholder] at hh; cases hh
    rw [(hcalm call hcall).resolve_left hsent, List.append_nil]
    refine hx.goto hown hcall (fun j hj => ?_) fun j hj => hj
    rcases hreturned hcall (call.isOpen_iff.mpr (.inl hstage)) j hj with hh | hret
    · exact .inl hh
    · exact .inr (.inr hret)
  | @resume i call reply hcall hstage hreply =>
    have hholder := (hs.waiting i call hcall).mp hstage
    have hown := hx.label_own fun h c hh hc => by
      obtain rfl := Option.some.inj (hh.symm.trans hholder)
      obtain rfl := Option.some.inj (hc.symm.trans hcall)
      rw [hreply]
      exact Option.some_ne_none reply
    refine hx.goto hown hcall (fun j hj => .inr ?_) fun j hj => hj
    rcases hreturned hcall (call.isOpen_iff.mpr (.inr hstage)) j hj with hh | hret
    · exact .inl ⟨Option.some.inj (hh.symm.trans hholder), _, _, rfl⟩
    · exact .inr hret
  | @drop i call hcall hopen =>
    have hholder : s.bindingHolder ≠ some i := fun hh =>
      hcalm call hcall ((hs.waiting i call hcall).mpr hh)
    rw [if_neg hholder]
    exact hx.drop hcall hopen hholder
  | discard answers id hdiscard =>
    obtain ⟨k, rfl, hk, -⟩ := mem_sent_of_peersAnswer hanswer
    exact hx.answer s.net s.handlerRunning hk
  | @complete answers id buf recvTag flow hrunning hfirst htag hfind hopen =>
    obtain ⟨k, rfl, hk, -⟩ := mem_sent_of_peersAnswer hanswer
    obtain ⟨call, -, -, -, hcall, -⟩ := hs.flow flow (List.mem_of_find?_eq_some hfind)
    exact hx.complete hs _ hk hcalm hcall ((State.isOpen_eq hcall).symm.trans hopen) _
  | crash answers id hrunning hfirst htag hfind hclosed =>
    obtain ⟨k, rfl, hk, -⟩ := mem_sent_of_peersAnswer hanswer
    exact hx.answer _ false hk

end Exclusive

theorem exclusive_run {es : List Event} {s : State}
    (h : StepSystem.Run (step pec) (fun s e => PeersAnswer s e ∧ Undisturbed pec s e)
      (init binding) es s) : WellFormed s ∧ Exclusive s := by
  refine h.invariant (I := fun s => WellFormed s ∧ Exclusive s)
    ⟨.init binding, .init binding⟩ ?_
  rintro s e s' ⟨hs, hx⟩ ⟨hanswer, hcalm⟩ hstep
  exact ⟨hs.step hstep, hx.step hs hanswer hcalm hstep⟩

/-! ### Own replies -/

/-- While the peers answer each frame once, every call that completes returns the reply to its own
request in every run in which each reply finds the flow of its request first, and in every run in
which no exchange is disturbed. -/
theorem ownReplies_of_run (pec : Bytes → UInt8) (binding : SmbusNetDevBinding)
    (es : List Event) (s : State)
    (h : StepSystem.Run (step pec) (fun s e => PeersAnswer s e ∧ OwnFlowFirst s e)
        (init binding) es s ∨
      StepSystem.Run (step pec) (fun s e => PeersAnswer s e ∧ Undisturbed pec s e)
        (init binding) es s) : OwnReplies s := by
  rcases h with h | h
  · exact (ownLabels_run h).ownReplies (wellFormed_run h)
  · obtain ⟨hs, hx⟩ := exclusive_run h
    exact hx.ownReplies hs

/-- The first exchange of a network meets both conditions. -/
theorem ownReplies_of_run_firstExchange :
    ∃ es s, StepSystem.Run (step crc8) (fun s e => PeersAnswer s e ∧ OwnFlowFirst s e)
        (init sampleBinding) es s ∧
      StepSystem.Run (step crc8) (fun s e => PeersAnswer s e ∧ Undisturbed crc8 s e)
        (init sampleBinding) es s ∧
      s.calls[0]? = some (sampleReturned 0x08 0x02 (sampleLabel 0 0x08 0x02)) ∧ OwnReplies s := by
  have hanswer : PeersAnswer ⟨twoSockets [(⟨0x0A, 0x08, 1, true⟩, 0)],
      [sampleCall 0x08 0x02 .waiting none], some 0, true, [0, 0], []⟩
      (.receive (some 0) 1 (sampleReply 0x08 0x02)) :=
    ⟨0, rfl, Nat.zero_lt_two, isReplyTo_sampleReply rfl⟩
  have hfirst := run_firstExchange (C := fun s e => PeersAnswer s e ∧ OwnFlowFirst s e)
    (fun _ => ⟨trivial, trivial⟩) (fun _ _ _ _ _ => ⟨trivial, trivial⟩)
    (fun _ _ _ _ => ⟨trivial, trivial⟩) (fun _ _ => ⟨trivial, trivial⟩) ⟨trivial, trivial⟩
    ⟨hanswer, fun call tag flow _ _ hflow =>
      congrArg Prod.snd (List.mem_singleton.mp (List.mem_of_find?_eq_some hflow))⟩
  have hcalm := run_firstExchange (C := fun s e => PeersAnswer s e ∧ Undisturbed crc8 s e)
    (fun _ => ⟨trivial, trivial⟩) (fun _ _ _ _ _ => ⟨trivial, trivial⟩)
    (fun _ _ _ _ => ⟨trivial, trivial⟩) (fun _ _ => ⟨trivial, trivial⟩)
    ⟨trivial, fun call hcall => by
      obtain rfl := Option.some.inj hcall
      exact .inl ⟨rfl, by decide, nofun, rfl⟩⟩
    ⟨hanswer, List.not_mem_nil⟩
  exact ⟨_, _, hfirst, hcalm, rfl, ownReplies_of_run crc8 sampleBinding _ _ (.inl hfirst)⟩

/-- After the first exchange, the reply to its second frame completes the next call of socket 0. -/
theorem run_secondReply : ∃ es, StepSystem.Run (step crc8) PeersAnswer (init sampleBinding) es
    ⟨twoSockets [], [sampleReturned 0x08 0x02 (sampleLabel 0 0x08 0x02),
      sampleReturned 0x08 0x04 (sampleLabel 0 0x08 0x02)], none, true, [0, 0, 1, 1], [0, 0]⟩ := by
  have hfirst := run_firstExchange (C := PeersAnswer) (fun _ => trivial)
    (fun _ _ _ _ _ => trivial) (fun _ _ _ _ => trivial) (fun _ _ => trivial) trivial
    ⟨0, rfl, Nat.zero_lt_two, isReplyTo_sampleReply rfl⟩
  have h₁ : step crc8 ⟨twoSockets [], [sampleReturned 0x08 0x02 (sampleLabel 0 0x08 0x02)], none,
      true, [0, 0], [0]⟩ (.sendto 0 [0x00, 0x80, 0x04] (.extended 0x0A 1 1 0x25)) =
      some ⟨twoSockets [(⟨0x0A, 0x08, 1, true⟩, 1)],
        [sampleReturned 0x08 0x02 (sampleLabel 0 0x08 0x02), sampleCall 0x08 0x04 .locking none],
        none, true, [0, 0], [0]⟩ := rfl
  have h₂ : step crc8 ⟨twoSockets [(⟨0x0A, 0x08, 1, true⟩, 1)],
      [sampleReturned 0x08 0x02 (sampleLabel 0 0x08 0x02), sampleCall 0x08 0x04 .locking none],
      none, true, [0, 0], [0]⟩ (.transmit 1 (.ok 12, .ok 12)) =
      some ⟨twoSockets [(⟨0x0A, 0x08, 1, true⟩, 1)],
        [sampleReturned 0x08 0x02 (sampleLabel 0 0x08 0x02), sampleCall 0x08 0x04 .waiting none],
        some 1, true, [0, 0, 1, 1], [0]⟩ := rfl
  have h₃ : step crc8 ⟨twoSockets [(⟨0x0A, 0x08, 1, true⟩, 1)],
      [sampleReturned 0x08 0x02 (sampleLabel 0 0x08 0x02), sampleCall 0x08 0x04 .waiting none],
      some 1, true, [0, 0, 1, 1], [0]⟩ (.receive (some 0) 1 (sampleReply 0x08 0x02)) =
      some ⟨twoSockets [], [sampleReturned 0x08 0x02 (sampleLabel 0 0x08 0x02),
        sampleCall 0x08 0x04 .waiting (some (sampleLabel 0 0x08 0x02))],
        some 1, true, [0, 0, 1, 1], [0, 0]⟩ := rfl
  have h₄ : step crc8 ⟨twoSockets [], [sampleReturned 0x08 0x02 (sampleLabel 0 0x08 0x02),
      sampleCall 0x08 0x04 .waiting (some (sampleLabel 0 0x08 0x02))],
      some 1, true, [0, 0, 1, 1], [0, 0]⟩ (.resume 1) =
      some ⟨twoSockets [], [sampleReturned 0x08 0x02 (sampleLabel 0 0x08 0x02),
        sampleReturned 0x08 0x04 (sampleLabel 0 0x08 0x02)], none, true, [0, 0, 1, 1],
        [0, 0]⟩ := rfl
  exact ⟨_, (((hfirst.snoc h₁ trivial).snoc h₂ trivial).snoc h₃
    ⟨0, rfl, Nat.one_lt_two, isReplyTo_sampleReply rfl⟩).snoc h₄ trivial⟩

/-- A call of socket 1 gets the lock before an earlier call of socket 0 and is dropped after its
reply, which completes the earlier call. -/
theorem run_droppedCall : ∃ es, StepSystem.Run (step crc8) PeersAnswer (init sampleBinding) es
    ⟨twoSockets [(⟨0x0A, 0x09, 1, true⟩, 1)], [sampleReturned 0x08 0x02 (sampleLabel 1 0x09 0x04),
      sampleCall 0x09 0x04 .dropped none], none, true, [1, 1, 0, 0], [1]⟩ := by
  have hopen : StepSystem.Run (step crc8) PeersAnswer (init sampleBinding) openTwoSockets
      ⟨twoSockets [], [], none, true, [], []⟩ :=
    run_openTwoSockets (fun _ => trivial) fun _ _ _ _ _ => trivial
  have h₁ : step crc8 ⟨twoSockets [], [], none, true, [], []⟩
      (.sendto 0 [0x00, 0x80, 0x02] (.extended 0x0A 1 1 0x25)) =
      some ⟨twoSockets [(⟨0x0A, 0x08, 1, true⟩, 0)], [sampleCall 0x08 0x02 .locking none], none,
        true, [], []⟩ := rfl
  have h₂ : step crc8 ⟨twoSockets [(⟨0x0A, 0x08, 1, true⟩, 0)],
      [sampleCall 0x08 0x02 .locking none], none, true, [], []⟩
      (.sendto 1 [0x00, 0x80, 0x04] (.extended 0x0A 1 1 0x25)) =
      some ⟨twoSockets [(⟨0x0A, 0x08, 1, true⟩, 0), (⟨0x0A, 0x09, 1, true⟩, 1)],
        [sampleCall 0x08 0x02 .locking none, sampleCall 0x09 0x04 .locking none], none, true, [],
        []⟩ := rfl
  have h₃ : step crc8 ⟨twoSockets [(⟨0x0A, 0x08, 1, true⟩, 0), (⟨0x0A, 0x09, 1, true⟩, 1)],
      [sampleCall 0x08 0x02 .locking none, sampleCall 0x09 0x04 .locking none], none, true, [],
      []⟩ (.transmit 1 (.ok 12, .ok 12)) =
      some ⟨twoSockets [(⟨0x0A, 0x08, 1, true⟩, 0), (⟨0x0A, 0x09, 1, true⟩, 1)],
        [sampleCall 0x08 0x02 .locking none, sampleCall 0x09 0x04 .waiting none], some 1, true,
        [1, 1], []⟩ := rfl
  have h₄ : step crc8 ⟨twoSockets [(⟨0x0A, 0x08, 1, true⟩, 0), (⟨0x0A, 0x09, 1, true⟩, 1)],
      [sampleCall 0x08 0x02 .locking none, sampleCall 0x09 0x04 .waiting none], some 1, true,
      [1, 1], []⟩ (.receive (some 1) 1 (sampleReply 0x09 0x04)) =
      some ⟨twoSockets [(⟨0x0A, 0x09, 1, true⟩, 1)],
        [sampleCall 0x08 0x02 .locking (some (sampleLabel 1 0x09 0x04)),
          sampleCall 0x09 0x04 .waiting none], some 1, true, [1, 1], [1]⟩ := rfl
  have h₅ : step crc8 ⟨twoSockets [(⟨0x0A, 0x09, 1, true⟩, 1)],
      [sampleCall 0x08 0x02 .locking (some (sampleLabel 1 0x09 0x04)),
        sampleCall 0x09 0x04 .waiting none], some 1, true, [1, 1], [1]⟩ (.drop 1) =
      some ⟨twoSockets [(⟨0x0A, 0x09, 1, true⟩, 1)],
        [sampleCall 0x08 0x02 .locking (some (sampleLabel 1 0x09 0x04)),
          sampleCall 0x09 0x04 .dropped none], none, true, [1, 1], [1]⟩ := rfl
  have h₆ : step crc8 ⟨twoSockets [(⟨0x0A, 0x09, 1, true⟩, 1)],
      [sampleCall 0x08 0x02 .locking (some (sampleLabel 1 0x09 0x04)),
        sampleCall 0x09 0x04 .dropped none], none, true, [1, 1], [1]⟩
      (.transmit 0 (.ok 12, .ok 12)) =
      some ⟨twoSockets [(⟨0x0A, 0x09, 1, true⟩, 1)],
        [sampleCall 0x08 0x02 .waiting (some (sampleLabel 1 0x09 0x04)),
          sampleCall 0x09 0x04 .dropped none], some 0, true, [1, 1, 0, 0], [1]⟩ := rfl
  have h₇ : step crc8 ⟨twoSockets [(⟨0x0A, 0x09, 1, true⟩, 1)],
      [sampleCall 0x08 0x02 .waiting (some (sampleLabel 1 0x09 0x04)),
        sampleCall 0x09 0x04 .dropped none], some 0, true, [1, 1, 0, 0], [1]⟩ (.resume 0) =
      some ⟨twoSockets [(⟨0x0A, 0x09, 1, true⟩, 1)],
        [sampleReturned 0x08 0x02 (sampleLabel 1 0x09 0x04), sampleCall 0x09 0x04 .dropped none],
        none, true, [1, 1, 0, 0], [1]⟩ := rfl
  exact ⟨_, ((((((hopen.snoc h₁ trivial).snoc h₂ trivial).snoc h₃ trivial).snoc h₄
    ⟨1, rfl, Nat.zero_lt_two, isReplyTo_sampleReply rfl⟩).snoc h₅ trivial).snoc h₆ trivial).snoc h₇
    trivial⟩

/-- The second reply to the request of a call completes the next call to the same endpoint; and with
each request answered at most once, the reply to a call of endpoint 9 that is dropped completes the
call of endpoint 8 that has registered before it. -/
theorem not_ownReplies_of_peersAnswer :
    (∃ es s, StepSystem.Run (step crc8) PeersAnswer (init sampleBinding) es s ∧
      ¬ OwnReplies s) ∧
    ∃ es s, StepSystem.Run (step crc8) PeersAnswer (init sampleBinding) es s ∧
      s.answered = [1] ∧ ¬ OwnReplies s := by
  obtain ⟨es₁, hsecond⟩ := run_secondReply
  obtain ⟨es₂, hdropped⟩ := run_droppedCall
  refine ⟨⟨es₁, _, hsecond, fun hown => ?_⟩, es₂, _, hdropped, rfl, fun hown => ?_⟩
  · have hreply := hown 1 _ _ _ rfl rfl
    cases hreply
  · have hreply := hown 0 _ _ _ rfl rfl
    cases hreply

end Network

end MctpEmu
