import Mathlib.Data.List.DropRight
import MctpEmu.BusOwner.Counters
import MctpEmu.BusOwner.Loop

/-!
# The conversation of a bus owner

The loop asks for one thing after another: it hands over a packet, waits for the response to it, and
goes on only then. A notification that arrives in between is kept in the flag of the context, which
the head of the loop takes down when it begins a discovery.

## Main definitions

* `BusOwner.Phase.awaits`, `BusOwner.Phase.isOver`: the loop waits for a response, and the loop has
  come to its end.
* `BusOwner.GoesOn`: the loop rests, or it asks.
* `BusOwner.Converses`: a history of exchanges and of the request that is not answered.
* `BusOwner.sinceTurn`: the events since the loop was last at its head.

## Main results

* `BusOwner.goesOn_of_turn`, `BusOwner.goesOn_of_wake`, `BusOwner.goesOn_of_deliver`: what the steps
  of the loop do to its context and its history.
* `BusOwner.history_of_step`: a step records at most a response and the next request.
* `BusOwner.discovers_iff`: a discovery begins exactly for the notifications since the last turn.
* `BusOwner.discoveries_le`: there are at most as many discoveries as notifications.
-/

namespace MctpEmu

namespace BusOwner

/-- The loop waits for the response to a request. -/
def Phase.awaits : Phase → Bool
  | .pinging | .gettingEid | .settingEid _ | .allocatingEids => true
  | _ => false

/-- The loop has come to its end. -/
def Phase.isOver : Phase → Bool
  | .returned _ | .panicked _ | .overflowed => true
  | _ => false

theorem Phase.isOver_of_awaits {phase : Phase} (h : phase.awaits = true) :
    phase.isOver = false := by
  cases phase with
  | pinging | gettingEid | settingEid | allocatingEids => rfl
  | top | sleeping | returned | panicked | overflowed => cases h

/-! ### Steps of the loop -/

/-- After a response the loop rests, or it assigns something and waits for the next response. -/
inductive GoesOn (s s' : State) : Prop
  | rest (hctx : s'.ctx = s.ctx) (hhistory : s'.history = s.history)
      (hphase : s'.phase.awaits = false)
  | ask (q : Request) (hq : q.commandCode ≠ .getEndpointID) (hctx : s'.ctx = (q.send s.ctx).2)
      (hhistory : s'.history = s.history ++ [.request (q.send s.ctx).1])
      (hphase : s'.phase.awaits = true)

theorem goesOn_phase (s : State) {phase : Phase} (h : phase.awaits = false) :
    GoesOn s { s with phase } :=
  .rest rfl rfl h

theorem goesOn_offerPool (s : State) (endpoint : EndpointContext) :
    GoesOn s (s.offerPool endpoint) := by
  rw [State.offerPool]
  split_ifs
  · exact .ask (.allocateEids endpoint.minDynamicEid endpoint.dynamicEidPoolSize)
      CommandCode.noConfusion rfl rfl rfl
  · exact goesOn_phase s rfl

theorem goesOn_discovered (s : State) (overflowChecks : Bool) (d : Delivery) :
    GoesOn s (s.discovered overflowChecks d) := by
  rw [State.discovered]
  split
  · exact goesOn_phase s rfl
  · exact goesOn_phase s rfl
  · split_ifs
    · split
      · exact goesOn_phase s rfl
      · exact .ask (.setEid s.nextEid) CommandCode.noConfusion rfl rfl rfl
    · exact goesOn_offerPool s _

theorem goesOn_reservePool (s : State) (overflowChecks : Bool) (endpoint : EndpointContext)
    (eidPoolSize : UInt8) : GoesOn s (s.reservePool overflowChecks endpoint eidPoolSize) := by
  rw [State.reservePool]
  split
  · exact goesOn_phase s rfl
  · split
    · next maxDynamicEid nextEid _ _ =>
      -- The cursor is not part of what is said here.
      cases goesOn_offerPool { s with nextEid } { endpoint with
          minDynamicEid := s.nextEid, maxDynamicEid, dynamicEidPoolSize := eidPoolSize } with
      | rest hctx hhistory hphase => exact .rest hctx hhistory hphase
      | ask q hq hctx hhistory hphase => exact .ask q hq hctx hhistory hphase
    · exact goesOn_phase s rfl

theorem goesOn_assigned (s : State) (overflowChecks : Bool) (endpoint : EndpointContext)
    (d : Delivery) : GoesOn s (s.assigned overflowChecks endpoint d) := by
  rw [State.assigned]
  split
  · exact goesOn_phase s rfl
  · exact goesOn_phase s rfl
  · dsimp only
    split_ifs
    · exact goesOn_reservePool s overflowChecks _ _
    · exact goesOn_offerPool s _

theorem goesOn_allocated (s : State) (d : Delivery) : GoesOn s (s.allocated d) := by
  rw [State.allocated]
  split
  · exact goesOn_phase s rfl
  · exact goesOn_phase s rfl
  · split
    · exact goesOn_phase s rfl
    · split_ifs <;> exact goesOn_phase s rfl

theorem goesOn_pinged (s : State) (d : Delivery) : GoesOn s (s.pinged d) := by
  rw [State.pinged]
  split
  · exact goesOn_phase s rfl
  · exact goesOn_phase s rfl
  · split <;> exact goesOn_phase s rfl

/-- Without a response there is an error or a panic. -/
theorem receiveResponse_ne_ok (α : Type) [FixedCodec α] {d : Delivery}
    (h : ∀ bytes, d ≠ .response bytes) (message : String) :
    (∃ e, receiveResponse α message d = .err e) ∨ ∃ m, receiveResponse α message d = .panic m := by
  cases hresp : receiveResponse α message d with
  | ok response =>
    obtain ⟨bytes, payload, hd, -⟩ := receiveResponse_eq_ok_iff.mp hresp
    exact absurd hd (h bytes)
  | err e => exact .inl ⟨e, rfl⟩
  | panic m => exact .inr ⟨m, rfl⟩

section Step

variable {overflowChecks : Bool} {pingEid : UInt8} {s s' : State}

/-- The head of the loop takes the flag down and asks its endpoint for its EID, or goes to sleep. -/
theorem goesOn_of_turn (h : step overflowChecks pingEid s .turn = some s') :
    s.phase = .top ∧
      if s.ctx.performDiscovery then
        s' = ({ s with ctx := { s.ctx with performDiscovery := false } } : State).send
          ((Request.getEid 0).send { s.ctx with performDiscovery := false }) .gettingEid
      else s' = { s with phase := .sleeping } := by
  cases hphase : s.phase with
  | top =>
    simp only [step, hphase] at h
    refine ⟨rfl, ?_⟩
    split_ifs at h ⊢
    · exact (Option.some.inj h).symm
    · exact (Option.some.inj h).symm
  | _ =>
    simp only [step, hphase] at h
    cases h

/-- After the sleep the loop asks the endpoint that is pinged, if there is one. -/
theorem goesOn_of_wake (h : step overflowChecks pingEid s .wake = some s') :
    s.phase = .sleeping ∧
      if pingEid ≠ 0 then s' = s.send ((Request.getEid pingEid).send s.ctx) .pinging
      else s' = { s with phase := .top } := by
  cases hphase : s.phase with
  | sleeping =>
    simp only [step, hphase] at h
    refine ⟨rfl, ?_⟩
    split_ifs at h ⊢
    · exact (Option.some.inj h).symm
    · exact (Option.some.inj h).symm
  | _ =>
    simp only [step, hphase] at h
    cases h

/-- What comes back is for a request that the loop waits for. -/
theorem goesOn_of_deliver {d : Delivery}
    (h : step overflowChecks pingEid s (.deliver d) = some s') :
    s.phase.awaits = true ∧ GoesOn { s with history := s.history ++ messages d } s' := by
  cases hphase : s.phase with
  | gettingEid =>
    simp only [step, hphase, Option.some.injEq] at h
    exact ⟨rfl, h ▸ hphase ▸ goesOn_discovered _ overflowChecks d⟩
  | settingEid endpoint =>
    simp only [step, hphase, Option.some.injEq] at h
    exact ⟨rfl, h ▸ hphase ▸ goesOn_assigned _ overflowChecks endpoint d⟩
  | allocatingEids =>
    simp only [step, hphase, Option.some.injEq] at h
    exact ⟨rfl, h ▸ hphase ▸ goesOn_allocated _ d⟩
  | pinging =>
    simp only [step, hphase, Option.some.injEq] at h
    exact ⟨rfl, h ▸ hphase ▸ goesOn_pinged _ d⟩
  | _ =>
    simp only [step, hphase] at h
    cases h

/-- A request that is given up ends the loop. -/
theorem isOver_of_deliver {d : Delivery} (hd : ∀ bytes, d ≠ .response bytes)
    (h : step overflowChecks pingEid s (.deliver d) = some s') : s'.phase.isOver = true := by
  cases hphase : s.phase with
  | gettingEid =>
    simp only [step, hphase, Option.some.injEq, State.discovered, discoverEndpoint,
      receiveGetEid] at h
    rcases receiveResponse_ne_ok GetEid.Response hd "Failed sending GetEid request" with
      ⟨e, he⟩ | ⟨m, hm⟩
    · simp only [he] at h
      exact h ▸ rfl
    · simp only [hm] at h
      exact h ▸ rfl
  | settingEid endpoint =>
    simp only [step, hphase, Option.some.injEq, State.assigned, acceptEid, receiveSetEid] at h
    rcases receiveResponse_ne_ok SetEid.Response hd "Failed sending SetEid request" with
      ⟨e, he⟩ | ⟨m, hm⟩
    · simp only [he] at h
      exact h ▸ rfl
    · simp only [hm] at h
      exact h ▸ rfl
  | allocatingEids =>
    simp only [step, hphase, Option.some.injEq, State.allocated, receiveAllocateEids] at h
    rcases receiveResponse_ne_ok AllocateEids.Response hd "Failed sending GetEid request" with
      ⟨e, he⟩ | ⟨m, hm⟩
    · simp only [he] at h
      exact h ▸ rfl
    · simp only [hm] at h
      exact h ▸ rfl
  | pinging =>
    simp only [step, hphase, Option.some.injEq, State.pinged, receiveGetEid] at h
    rcases receiveResponse_ne_ok GetEid.Response hd "Failed sending GetEid request" with
      ⟨e, he⟩ | ⟨m, hm⟩
    · simp only [he] at h
      exact h ▸ rfl
    · simp only [hm] at h
      exact h ▸ rfl
  | _ =>
    simp only [step, hphase] at h
    cases h

/-- What the loop hears with an event. -/
def Event.heard : Event → List Message
  | .deliver d => messages d
  | _ => []

/-- The loop adds what it hears to its history, and what it asks next if it begins to wait. -/
theorem history_of_step {e : Event} (he : ∀ bytes, e ≠ .handleRequest bytes)
    (h : step overflowChecks pingEid s e = some s') :
    (s'.phase.awaits = false ∧ s'.history = s.history ++ e.heard) ∨
      s'.phase.awaits = true ∧ ∃ (q : Request) (ctx : MctpEndpointContext),
        s'.history = s.history ++ e.heard ++ [.request (q.send ctx).1] := by
  cases e with
  | turn =>
    obtain ⟨-, hs'⟩ := goesOn_of_turn h
    simp only [Event.heard, List.append_nil]
    split_ifs at hs' <;> subst hs'
    · exact .inr ⟨rfl, .getEid 0, _, rfl⟩
    · exact .inl ⟨rfl, rfl⟩
  | wake =>
    obtain ⟨-, hs'⟩ := goesOn_of_wake h
    simp only [Event.heard, List.append_nil]
    split_ifs at hs' <;> subst hs'
    · exact .inr ⟨rfl, .getEid pingEid, _, rfl⟩
    · exact .inl ⟨rfl, rfl⟩
  | deliver d =>
    obtain ⟨-, hgoes⟩ := goesOn_of_deliver h
    cases hgoes with
    | rest _ hhistory hphase => exact .inl ⟨hphase, hhistory⟩
    | ask q _ _ hhistory hphase => exact .inr ⟨hphase, q, s.ctx, hhistory⟩
  | handleRequest bytes => exact absurd rfl (he bytes)

/-- A request that is given up leaves the history as it is. -/
theorem history_of_giveUp {d : Delivery} (hd : ∀ bytes, d ≠ .response bytes)
    (h : step overflowChecks pingEid s (.deliver d) = some s') : s'.history = s.history := by
  have hover := isOver_of_deliver hd h
  rcases history_of_step (fun _ => Event.noConfusion) h with ⟨-, hhistory⟩ | ⟨hawaits, -⟩
  · rw [hhistory, Event.heard]
    cases d with
    | response bytes => exact absurd rfl (hd bytes)
    | unsent | abandoned | failed => exact List.append_nil _
  · cases hover.symm.trans (Phase.isOver_of_awaits hawaits)

/-- Whatever comes back, the loop goes on. -/
theorem exists_step_deliver (overflowChecks : Bool) (pingEid : UInt8) (h : s.phase.awaits = true)
    (d : Delivery) : ∃ s', step overflowChecks pingEid s (.deliver d) = some s' := by
  refine Option.isSome_iff_exists.mp ?_
  cases hphase : s.phase with
  | pinging | gettingEid | settingEid | allocatingEids =>
    simp only [step, hphase]
    rfl
  | top | sleeping | returned | panicked | overflowed =>
    rw [hphase] at h
    cases h

end Step

/-! ### Exchanges -/

/-- A history of exchanges, each a request with its response, and of the request that is not
answered, if there is one. -/
def Converses (history : List Message) (exchanges : List (Bytes × Bytes))
    (unanswered : Option Bytes) : Prop :=
  history = exchanges.flatMap (fun x => [.request x.1, .response x.2]) ++
    unanswered.toList.map .request

namespace Converses

variable {history : List Message} {exchanges : List (Bytes × Bytes)} {packet : Bytes}

theorem nil : Converses [] [] none := rfl

theorem ask (h : Converses history exchanges none) (packet : Bytes) :
    Converses (history ++ [.request packet]) exchanges (some packet) := by
  rw [Converses] at h ⊢
  rw [h]
  simp only [Option.toList_none, List.map_nil, List.append_nil, Option.toList_some, List.map_cons]

theorem answer (h : Converses history exchanges (some packet)) (response : Bytes) :
    Converses (history ++ [.response response]) (exchanges ++ [(packet, response)]) none := by
  rw [Converses] at h ⊢
  rw [h]
  simp only [Option.toList_some, List.map_cons, List.map_nil, List.append_assoc,
    List.singleton_append, List.flatMap_append, List.flatMap_cons, List.flatMap_nil,
    Option.toList_none, List.append_nil]

end Converses

/-! ### Notifications -/

/-- A packet that asks an endpoint without an EID for it: the start of a discovery. -/
def Message.isDiscovery : Message → Bool
  | .request bytes =>
    (readRequest GetEid.Request .getEndpointID bytes).isSome && decide (bytes[1]? = some 0)
  | .response _ => false

/-- The discoveries that have begun. -/
def discoveries (history : List Message) : ℕ := history.countP Message.isDiscovery

/-- The responder gets a notification. -/
def Event.notifies : Event → Bool
  | .handleRequest bytes => MctpEndpointContext.notifiesDiscovery bytes
  | _ => false

/-- The events since the loop was last at its head. -/
def sinceTurn (es : List Event) : List Event := es.rtakeWhile fun e => e ≠ .turn

/-- A request for the EID of an endpoint carries its destination. -/
theorem isDiscovery_getEid (ctx : MctpEndpointContext) (destEid : UInt8) :
    Message.isDiscovery (.request ((Request.getEid destEid).send ctx).1) =
      decide (destEid = 0) := by
  obtain ⟨hdr, hread⟩ := ctx.readRequest_newRequest destEid .getEndpointID
    MctpEndpointContext.exists_encode_getEid
  have hdest : ((Request.getEid destEid).send ctx).1[1]? = some destEid := rfl
  have hsome : readRequest GetEid.Request .getEndpointID ((Request.getEid destEid).send ctx).1 =
      some { hdr } := hread
  rw [Message.isDiscovery, hsome, hdest]
  simp only [Option.isSome_some, Bool.true_and, Option.some.injEq]

/-- The other requests of the loop are no discoveries. -/
theorem isDiscovery_send_of_ne {q : Request} (h : q.commandCode ≠ .getEndpointID)
    (ctx : MctpEndpointContext) : Message.isDiscovery (.request (q.send ctx).1) = false := by
  have hnone : readRequest GetEid.Request .getEndpointID (q.send ctx).1 = none := by
    cases q with
    | getEid => exact absurd rfl h
    | setEid eid =>
      exact ctx.readRequest_newRequest_of_ne 0 .setEndpointID .getEndpointID h
        (MctpEndpointContext.exists_encode_setEid eid) GetEid.Request
    | allocateEids startingEid numberOfEids =>
      exact ctx.readRequest_newRequest_of_ne 0 .allocateEndpointIDs .getEndpointID h
        (MctpEndpointContext.exists_encode_allocateEids numberOfEids startingEid) GetEid.Request
  rw [Message.isDiscovery, hnone]
  rfl

section Runs

variable {overflowChecks : Bool} {pingEid : UInt8} {C : State → Event → Prop}
  {ctx : MctpEndpointContext} {es : List Event} {s s' : State} {e : Event}

/-- The loop has been notified since it was last at its head, where the flag that it starts with
counts as a notification. -/
def Notified (ctx : MctpEndpointContext) (es : List Event) : Prop :=
  (∃ e ∈ sinceTurn es, e.notifies = true) ∨ ctx.performDiscovery = true ∧ .turn ∉ es

instance (ctx : MctpEndpointContext) (es : List Event) : Decidable (Notified ctx es) :=
  inferInstanceAs (Decidable (_ ∨ _ ∧ _))

theorem not_notified_turn (ctx : MctpEndpointContext) (es : List Event) :
    ¬ Notified ctx (es ++ [.turn]) := by
  rw [Notified, sinceTurn, List.rtakeWhile_concat_neg _ _ _ (by simp)]
  simp

theorem notified_concat_iff (ctx : MctpEndpointContext) (es : List Event) (he : e ≠ .turn) :
    Notified ctx (es ++ [e]) ↔ Notified ctx es ∨ e.notifies = true := by
  have hturn : Event.turn ∉ es ++ [e] ↔ .turn ∉ es := by
    simp only [List.mem_append, List.mem_singleton, he.symm, or_false]
  have hsince : sinceTurn (es ++ [e]) = sinceTurn es ++ [e] :=
    List.rtakeWhile_concat_pos _ es e (decide_eq_true he)
  rw [Notified, Notified, hsince, hturn]
  simp only [List.mem_append, List.mem_singleton, or_and_right, exists_or, exists_eq_left]
  exact or_right_comm

/-- What a step does to the flag, and whether it begins a discovery. -/
theorem discoveries_of_step (h : step overflowChecks pingEid s e = some s') :
    (e = .turn ∧ s'.ctx.performDiscovery = false ∧ discoveries s'.history =
        discoveries s.history + if s.ctx.performDiscovery then 1 else 0) ∨
      e ≠ .turn ∧ s'.ctx.performDiscovery = (s.ctx.performDiscovery || e.notifies) ∧
        discoveries s'.history = discoveries s.history := by
  have hcount (m : Message) :
      discoveries (s.history ++ [m]) = discoveries s.history + if m.isDiscovery then 1 else 0 := by
    rw [discoveries, List.countP_append, List.countP_singleton]
    rfl
  cases e with
  | turn =>
    obtain ⟨-, hs'⟩ := goesOn_of_turn h
    refine .inl ⟨rfl, ?_⟩
    split_ifs at hs' ⊢ with hflag
    · subst hs'
      exact ⟨rfl, (hcount _).trans (by rw [isDiscovery_getEid]; rfl)⟩
    · subst hs'
      exact ⟨Bool.eq_false_iff.mpr hflag, rfl⟩
  | wake =>
    obtain ⟨-, hs'⟩ := goesOn_of_wake h
    refine .inr ⟨Event.noConfusion, ?_⟩
    split_ifs at hs' with hping
    · subst hs'
      refine ⟨(Bool.or_false _).symm, (hcount _).trans ?_⟩
      rw [isDiscovery_getEid, decide_eq_false hping]
      rfl
    · subst hs'
      exact ⟨(Bool.or_false _).symm, rfl⟩
  | handleRequest bytes =>
    obtain rfl := Option.some.inj h
    refine .inr ⟨Event.noConfusion, ?_, rfl⟩
    rw [MctpEndpointContext.handleRequest_snd]
    rfl
  | deliver d =>
    obtain ⟨-, hgoes⟩ := goesOn_of_deliver h
    have hmessages : discoveries (s.history ++ messages d) = discoveries s.history := by
      cases d with
      | response bytes => exact hcount _
      | unsent | abandoned | failed => exact congrArg discoveries (List.append_nil _)
    refine .inr ⟨Event.noConfusion, ?_⟩
    cases hgoes with
    | rest hctx hhistory =>
      exact ⟨by rw [hctx]; exact (Bool.or_false _).symm, by rw [hhistory, hmessages]⟩
    | ask q hq hctx hhistory =>
      refine ⟨by rw [hctx, q.send_snd]; exact (Bool.or_false _).symm, ?_⟩
      rw [hhistory, discoveries, List.countP_append, List.countP_singleton,
        isDiscovery_send_of_ne hq]
      exact hmessages

/-- The flag is raised exactly when the loop has been notified. -/
theorem performDiscovery_run (h : StepSystem.Run (step overflowChecks pingEid) C (init ctx) es s) :
    s.ctx.performDiscovery = true ↔ Notified ctx es := by
  induction h with
  | nil => simp [Notified, sinceTurn, init]
  | @snoc es s s' e _ hstep _ ih =>
    rcases discoveries_of_step hstep with ⟨rfl, hflag, -⟩ | ⟨hne, hflag, -⟩
    · rw [hflag]
      exact iff_of_false Bool.false_ne_true (not_notified_turn ctx es)
    · rw [hflag, Bool.or_eq_true, ih, notified_concat_iff ctx es hne]

/-- There are at most as many discoveries as notifications; a raised flag is one more to come. -/
theorem discoveries_le (h : StepSystem.Run (step overflowChecks pingEid) C (init ctx) es s) :
    discoveries s.history + s.ctx.performDiscovery.toNat ≤
      es.countP Event.notifies + ctx.performDiscovery.toNat := by
  induction h with
  | nil => exact le_rfl
  | @snoc es s s' e _ hstep _ ih =>
    rw [List.countP_append, List.countP_singleton]
    rcases discoveries_of_step hstep with ⟨rfl, hflag, hcount⟩ | ⟨-, hflag, hcount⟩
    · rw [hflag, hcount]
      cases hraised : s.ctx.performDiscovery <;> simp [hraised] at ih ⊢ <;> omega
    · rw [hflag, hcount]
      cases hraised : s.ctx.performDiscovery <;> cases hnotifies : e.notifies <;>
        simp [hraised] at ih ⊢ <;> omega

/-- In every run, a step begins a discovery exactly when it is a turn of the loop and a notification
has come since the turn before, however many there were and whatever the loop waited for; so there
are at most as many discoveries as notifications. -/
theorem discovers_iff (overflowChecks : Bool) (pingEid : UInt8) (ctx : MctpEndpointContext)
    (es : List Event) (s : State)
    (h : StepSystem.Run (step overflowChecks pingEid) (fun _ _ => True) (init ctx) es s) :
    (∀ e s', step overflowChecks pingEid s e = some s' → discoveries s'.history =
        discoveries s.history + if e = .turn ∧ Notified ctx es then 1 else 0) ∧
      discoveries s.history ≤ es.countP Event.notifies + ctx.performDiscovery.toNat := by
  refine ⟨fun e s' hstep => ?_, (Nat.le_add_right _ _).trans (discoveries_le h)⟩
  rcases discoveries_of_step hstep with ⟨rfl, -, hcount⟩ | ⟨hne, -, hcount⟩
  · rw [hcount]
    simp only [performDiscovery_run h, true_and]
  · rw [hcount, if_neg fun hturn => hne hturn.1, Nat.add_zero]

end Runs

/-- A notification that comes while the loop sleeps. -/
def sampleNotification : List Event :=
  [.turn, .handleRequest [0x01, 0x00, 0x0A, 0xC8, 0x00, 0x81, 0x0D], .wake]

/-- The turn after it begins the first discovery. -/
theorem discovers_iff_sampleNotification : ∃ s s',
    StepSystem.Run (step true 0) (fun _ _ => True) (init ⟨0x00, false, 0x80, 32, 1, 1⟩)
        sampleNotification s ∧
      step true 0 s .turn = some s' ∧
      discoveries s'.history = discoveries s.history + 1 := by
  have hsome : ((sampleNotification ++ [Event.turn]).foldlM (step true 0)
      (init ⟨0x00, false, 0x80, 32, 1, 1⟩)).isSome = true := by decide +kernel
  obtain ⟨s', hs'⟩ := Option.isSome_iff_exists.mp hsome
  obtain ⟨s, hrun, hturn, -⟩ := StepSystem.Run.snoc_iff.mp (StepSystem.Run.of_foldlM_eq hs')
  have hcount := (discovers_iff true 0 _ _ s hrun).1 .turn s' hturn
  rw [if_pos (by decide)] at hcount
  exact ⟨s, s', hrun, hturn, hcount⟩

end BusOwner

end MctpEmu
