import MctpEmu.BusOwner.Requests
import MctpEmu.Library.Ledger
import MctpEmu.Library.StepSystem

/-!
# The bus owner loop

`run_bus_owner_loop` of `examples/basic_bus_owner_loop.rs` as a machine that stops where the loop
waits: at the head of the loop, for the end of its sleep, and for the response to each request. The
responder of the endpoint runs in between on the same context.

A build with overflow checks panics where an addition on an EID overflows; another one wraps.

## Main definitions

* `BusOwner.EndpointContext`, `BusOwner.Phase`, `BusOwner.State`, `BusOwner.Event`.
* `BusOwner.step`: one step of the loop, or of the responder.
* `BusOwner.demand`: the EIDs that a response takes.
* `BusOwner.Message.range`: the EIDs that a packet hands out.
* `BusOwner.Transition`: what a step does to the EIDs.

## Main results

* `BusOwner.transition_of_step`: every step that does not overflow is one of the transitions.
* `BusOwner.Transition.nextEid_eq`, `BusOwner.Transition.ranges_eq`: where the cursor stands after a
  step, and what the step hands out.
-/

namespace MctpEmu

namespace BusOwner

/-! ### State -/

/-- The endpoint that is being discovered. -/
structure EndpointContext where
  eid : UInt8
  endpointType : GetEid.EndpointType
  eidType : GetEid.EidType
  eidAllocationStatus : SetEid.EidAllocationStatus
  minDynamicEid : UInt8
  maxDynamicEid : UInt8
  dynamicEidPoolSize : UInt8
deriving DecidableEq, Repr

/-- Where the loop stands. -/
inductive Phase
  | top
  | sleeping
  | pinging
  | gettingEid
  | settingEid (endpoint : EndpointContext)
  | allocatingEids
  | returned (error : AnyhowError)
  | panicked (message : String)
  /-- The panic of an addition or a subtraction that overflows. -/
  | overflowed
deriving DecidableEq, Repr

/-- The loop waits for the response to an assignment. -/
def Phase.isSettingEid : Phase → Bool
  | .settingEid _ => true
  | _ => false

/-- The packets that the loop sends and the responses that it gets. -/
inductive Message
  | request (bytes : Bytes)
  | response (bytes : Bytes)
deriving DecidableEq, Repr

structure State where
  ctx : MctpEndpointContext
  nextEid : UInt8
  phase : Phase
  history : List Message
deriving DecidableEq, Repr

/-- The start of the loop. -/
def init (ctx : MctpEndpointContext) : State := ⟨ctx, ctx.minEidInPool, .top, []⟩

inductive Event
  /-- The head of the loop. -/
  | turn
  /-- The sleep of five seconds ends. -/
  | wake
  /-- A request is answered, or given up. -/
  | deliver (d : Delivery)
  /-- The responder handles a packet. -/
  | handleRequest (bytes : Bytes)
deriving DecidableEq, Repr

/-- A request is handed to the transmit task. -/
def State.send (s : State) (request : Bytes × MctpEndpointContext) (phase : Phase) : State :=
  { s with ctx := request.2, phase, history := s.history ++ [.request request.1] }

/-! ### The loop -/

/-- `u8` addition. -/
def addU8 (overflowChecks : Bool) (a b : UInt8) : Option UInt8 :=
  if overflowChecks ∧ 255 < a.toNat + b.toNat then none else some (a + b)

/-- `u8` subtraction. -/
def subU8 (overflowChecks : Bool) (a b : UInt8) : Option UInt8 :=
  if overflowChecks ∧ a < b then none else some (a - b)

/-- Step 3: a pool is offered when its ends differ. -/
def State.offerPool (s : State) (endpoint : EndpointContext) : State :=
  if endpoint.minDynamicEid ≠ endpoint.maxDynamicEid then
    s.send (s.ctx.sendAllocateEidsRequest endpoint.minDynamicEid endpoint.dynamicEidPoolSize)
      .allocatingEids
  else { s with phase := .top }

/-- Step 1: the endpoint that the response describes. -/
def discoverEndpoint (d : Delivery) : Outcome AnyhowError EndpointContext :=
  match receiveGetEid d with
  | .panic message => .panic message
  | .err e => .err (.context "GetEid request failed" e)
  | .ok resp =>
    match isSuccess resp.completionCode with
    | .error e => .err (.context "GetEID Response is non-successful" (.msg e))
    | .ok () => .ok
        { eid := resp.eid
          endpointType := .fromU8 resp.endpointType
          eidType := .fromU8 resp.eidType
          eidAllocationStatus := .noPoolSupport
          minDynamicEid := 0
          maxDynamicEid := 0
          dynamicEidPoolSize := 0 }

/-- A dynamic endpoint gets the next EID. -/
def State.discovered (overflowChecks : Bool) (s : State) (d : Delivery) : State :=
  match discoverEndpoint d with
  | .panic message => { s with phase := .panicked message }
  | .err e => { s with phase := .returned e }
  | .ok endpoint =>
    if endpoint.eidType = .dynamic then
      let eid := s.nextEid
      match addU8 overflowChecks s.nextEid 1 with
      | none => { s with phase := .overflowed }
      | some nextEid =>
        ({ s with nextEid } : State).send (s.ctx.sendSetEidRequest eid) (.settingEid endpoint)
    else s.offerPool endpoint

/-- Step 2: the response that accepts the EID. -/
def acceptEid (d : Delivery) : Outcome AnyhowError SetEid.Response :=
  match receiveSetEid d with
  | .panic message => .panic message
  | .err e => .err (.context "SetEid request failed" e)
  | .ok resp =>
    match isSuccess resp.completionCode with
    | .error e => .err (.msg e)
    | .ok () =>
      if resp.eidAssignmentStatus ≠ 0 then .err (.msg "EID assignment was rejected") else .ok resp

/-- A bus owner or bridge that asks for a pool. -/
def RequiresPool (endpoint : EndpointContext) (resp : SetEid.Response) : Prop :=
  endpoint.endpointType = .busOwnerOrBridge ∧
    endpoint.eidAllocationStatus = .requiresPoolAllocation ∧ resp.eidPoolSize > 0

instance (endpoint : EndpointContext) (resp : SetEid.Response) :
    Decidable (RequiresPool endpoint resp) :=
  inferInstanceAs (Decidable (_ ∧ _ ∧ _))

/-- A pool is set apart for the endpoint. -/
def State.reservePool (overflowChecks : Bool) (s : State) (endpoint : EndpointContext)
    (eidPoolSize : UInt8) : State :=
  match addU8 overflowChecks s.nextEid eidPoolSize with
  | none => { s with phase := .overflowed }
  | some sum =>
    match subU8 overflowChecks sum 1, addU8 overflowChecks s.nextEid eidPoolSize with
    | some maxDynamicEid, some nextEid =>
      ({ s with nextEid } : State).offerPool { endpoint with
        minDynamicEid := s.nextEid, maxDynamicEid, dynamicEidPoolSize := eidPoolSize }
    | _, _ => { s with phase := .overflowed }

/-- An endpoint that has accepted its EID may get a pool. -/
def State.assigned (overflowChecks : Bool) (s : State) (endpoint : EndpointContext)
    (d : Delivery) : State :=
  match acceptEid d with
  | .panic message => { s with phase := .panicked message }
  | .err e => { s with phase := .returned e }
  | .ok resp =>
    let endpoint := { endpoint with eidAllocationStatus := resp.eidAllocationStatus }
    if RequiresPool endpoint resp then s.reservePool overflowChecks endpoint resp.eidPoolSize
    else s.offerPool endpoint

/-- The end of step 3. -/
def State.allocated (s : State) (d : Delivery) : State :=
  match receiveAllocateEids d with
  | .panic message => { s with phase := .panicked message }
  | .err e => { s with phase := .returned (.context "AllocateEid request failed" e) }
  | .ok resp =>
    match isSuccess resp.completionCode with
    | .error e => { s with phase := .returned (.msg e) }
    | .ok () =>
      if resp.allocationStatus ≠ .allocationAccepted then
        { s with phase := .returned (.msg "EID pool allocation was rejected") }
      else { s with phase := .top }

/-- The response to a ping; its errors are unwrapped. -/
def State.pinged (s : State) (d : Delivery) : State :=
  match receiveGetEid d with
  | .panic message => { s with phase := .panicked message }
  | .err _ => { s with phase := .panicked "called Result::unwrap() on an Err value" }
  | .ok resp =>
    match isSuccess resp.completionCode with
    | .error _ => { s with phase := .panicked "called Result::unwrap() on an Err value" }
    | .ok () => { s with phase := .top }

/-- The response that a delivery adds to the history. -/
def messages : Delivery → List Message
  | .response bytes => [.response bytes]
  | _ => []

/-- One step of the loop, or of the responder. -/
def step (overflowChecks : Bool) (pingEid : UInt8) (s : State) : Event → Option State
  | .turn =>
    match s.phase with
    | .top =>
      if s.ctx.performDiscovery then
        let ctx := { s.ctx with performDiscovery := false }
        some (s.send (ctx.sendGetEidRequest 0) .gettingEid)
      else some { s with phase := .sleeping }
    | _ => none
  | .wake =>
    match s.phase with
    | .sleeping =>
      if pingEid ≠ 0 then some (s.send (s.ctx.sendGetEidRequest pingEid) .pinging)
      else some { s with phase := .top }
    | _ => none
  | .deliver d =>
    let t := { s with history := s.history ++ messages d }
    match s.phase with
    | .gettingEid => some (t.discovered overflowChecks d)
    | .settingEid endpoint => some (t.assigned overflowChecks endpoint d)
    | .allocatingEids => some (t.allocated d)
    | .pinging => some (t.pinged d)
    | _ => none
  | .handleRequest bytes => some { s with ctx := (s.ctx.handleRequest bytes).2 }

/-! ### The EIDs that a step takes -/

/-- The EIDs that a response takes: one for a dynamic endpoint, and the pool of a bridge. -/
def demand (s : State) : Event → ℕ
  | .deliver d =>
    match s.phase with
    | .gettingEid =>
      match discoverEndpoint d with
      | .ok endpoint => if endpoint.eidType = .dynamic then 1 else 0
      | _ => 0
    | .settingEid endpoint =>
      match acceptEid d with
      | .ok resp =>
        if RequiresPool { endpoint with eidAllocationStatus := resp.eidAllocationStatus } resp then
          resp.eidPoolSize.toNat
        else 0
      | _ => 0
    | _ => 0
  | _ => 0

/-- The EIDs, as a half-open range, that a packet of the loop hands out: the one that it assigns, or
those that it offers to a bridge. -/
def Message.range : Message → Option (ℕ × ℕ)
  | .request bytes =>
    match readRequest SetEid.Request .setEndpointID bytes with
    | some req => some (req.eid.toNat, req.eid.toNat + 1)
    | none =>
      (readRequest AllocateEids.Request .allocateEndpointIDs bytes).map fun req =>
        (req.startingEid.toNat, req.startingEid.toNat + req.numberOfEids.toNat)
  | .response _ => none

/-- The ranges that have been handed out. -/
def ranges (history : List Message) : List (ℕ × ℕ) := history.filterMap Message.range

@[simp] theorem ranges_append (l l' : List Message) : ranges (l ++ l') = ranges l ++ ranges l' :=
  List.filterMap_append

@[simp] theorem ranges_messages (d : Delivery) : ranges (messages d) = [] := by
  cases d <;> rfl

theorem range_sendSetEidRequest (ctx : MctpEndpointContext) (eid : UInt8) :
    Message.range (.request (ctx.sendSetEidRequest eid).1) = some (eid.toNat, eid.toNat + 1) := by
  obtain ⟨req, hread, rfl⟩ := ctx.readRequest_sendSetEidRequest eid
  rw [Message.range, hread]

theorem range_sendAllocateEidsRequest (ctx : MctpEndpointContext)
    (startingEid numberOfEids : UInt8) :
    Message.range (.request (ctx.sendAllocateEidsRequest startingEid numberOfEids).1) =
      some (startingEid.toNat, startingEid.toNat + numberOfEids.toNat) := by
  obtain ⟨hnone, req, hread, rfl, rfl⟩ :=
    ctx.readRequest_sendAllocateEidsRequest startingEid numberOfEids
  rw [Message.range, hnone, hread]
  rfl

theorem range_sendGetEidRequest (ctx : MctpEndpointContext) (destEid : UInt8) :
    Message.range (.request (ctx.sendGetEidRequest destEid).1) = none := by
  obtain ⟨hset, hallocate⟩ := ctx.readRequest_sendGetEidRequest destEid
  rw [Message.range, hset, hallocate]
  rfl

/-! ### Transitions -/

/-- What a step does to the EIDs. -/
inductive Transition (s : State) (e : Event) (s' : State) : Prop
  /-- Only the context changes. -/
  | respond (hdemand : demand s e = 0) (hnext : s'.nextEid = s.nextEid)
      (hphase : s'.phase = s.phase) (hhistory : s'.history = s.history)
  /-- No EID is taken or handed out, and no response to an assignment is awaited. -/
  | other (hdemand : demand s e = 0) (hnext : s'.nextEid = s.nextEid)
      (hphase : s'.phase.isSettingEid = false) {news : List Message}
      (hhistory : s'.history = s.history ++ news) (hnews : ∀ m ∈ news, m.range = none)
  /-- The next EID is assigned. -/
  | assign (hdemand : demand s e = 1) (hfits : s.nextEid.toNat + 1 ≤ 255)
      (hphase : s.phase = .gettingEid) (bytes : Bytes) (endpoint : EndpointContext)
      (hnext : s'.nextEid.toNat = s.nextEid.toNat + 1) (hphase' : s'.phase = .settingEid endpoint)
      (hpool : endpoint.minDynamicEid = 0 ∧ endpoint.maxDynamicEid = 0)
      (ctx : MctpEndpointContext)
      (hhistory : s'.history = s.history ++
        [.response bytes, .request (ctx.sendSetEidRequest s.nextEid).1])
  /-- A pool is set apart, and offered unless it is a single EID. -/
  | reserve {endpoint : EndpointContext} (hphase : s.phase = .settingEid endpoint)
      {bytes : Bytes} {payload : ControlPayload} {resp : SetEid.Response}
      (hresp : ControlPayload.tryToResponse SetEid.Response bytes = .ok (payload, resp))
      (hpos : 0 < resp.eidPoolSize.toNat) (hdemand : demand s e = resp.eidPoolSize.toNat)
      (hfits : s.nextEid.toNat + resp.eidPoolSize.toNat ≤ 255)
      (hnext : s'.nextEid.toNat = s.nextEid.toNat + resp.eidPoolSize.toNat)
      (hphase' : s'.phase.isSettingEid = false) (ctx : MctpEndpointContext)
      (hhistory : s'.history = s.history ++ .response bytes ::
        if resp.eidPoolSize = 1 then [] else
          [.request (ctx.sendAllocateEidsRequest s.nextEid resp.eidPoolSize).1])

/-- The step hands out the EIDs that it takes; a pool of one EID is set apart without being
offered. -/
def HandsOut (s : State) (e : Event) : Prop :=
  demand s e ≠ 0 ∧ ¬ (s.phase.isSettingEid = true ∧ demand s e = 1)

/-- The cursor moves on by the EIDs that are taken. -/
theorem Transition.nextEid_eq {s s' : State} {e : Event} (h : Transition s e s') :
    s'.nextEid.toNat = s.nextEid.toNat + demand s e := by
  cases h with
  | respond hdemand hnext | other hdemand hnext => rw [hdemand, hnext, Nat.add_zero]
  | assign hdemand hfits hphase bytes endpoint hnext => rw [hdemand, hnext]
  | reserve hphase hresp hpos hdemand hfits hnext => rw [hdemand, hnext]

/-- What a step hands out are the EIDs behind the cursor that it takes. -/
theorem Transition.ranges_eq {s s' : State} {e : Event} (h : Transition s e s') :
    (¬ HandsOut s e ∧ ranges s'.history = ranges s.history) ∨
      HandsOut s e ∧ ranges s'.history =
        ranges s.history ++ [(s.nextEid.toNat, s.nextEid.toNat + demand s e)] := by
  cases h with
  | respond hdemand hnext hphase hhistory =>
    exact .inl ⟨fun hout => hout.1 hdemand, congrArg ranges hhistory⟩
  | @other hdemand hnext hphase news hhistory hnews =>
    refine .inl ⟨fun hout => hout.1 hdemand, ?_⟩
    have hnone : ranges news = [] := List.filterMap_eq_nil_iff.mpr hnews
    rw [hhistory, ranges_append, hnone, List.append_nil]
  | assign hdemand hfits hphase bytes endpoint hnext hphase' hpool ctx hhistory =>
    refine .inr ⟨⟨by rw [hdemand]; exact one_ne_zero, fun hset => ?_⟩, ?_⟩
    · rw [hphase] at hset
      cases hset.1
    · rw [hhistory, ranges_append, hdemand]
      refine congrArg _ ?_
      simp only [ranges, List.filterMap_cons, range_sendSetEidRequest, List.filterMap_nil]
      rfl
  | @reserve endpoint hphase bytes payload resp hresp hpos hdemand hfits hnext hphase' ctx
      hhistory =>
    have hsetting : s.phase.isSettingEid = true := by rw [hphase]; rfl
    have hone : demand s e = 1 ↔ resp.eidPoolSize = 1 := by
      rw [hdemand, ← UInt8.toNat_inj]
      rfl
    by_cases hsingle : resp.eidPoolSize = 1
    · refine .inl ⟨fun hout => hout.2 ⟨hsetting, hone.mpr hsingle⟩, ?_⟩
      rw [hhistory, if_pos hsingle, ranges_append]
      exact List.append_nil _
    · refine .inr ⟨⟨by omega, fun hset => hsingle (hone.mp hset.2)⟩, ?_⟩
      rw [hhistory, if_neg hsingle, ranges_append, hdemand]
      refine congrArg _ ?_
      simp only [ranges, List.filterMap_cons, range_sendAllocateEidsRequest, List.filterMap_nil]
      rfl

section Inversion

variable (overflowChecks : Bool)

theorem addU8_of_le {a b : UInt8} (h : a.toNat + b.toNat ≤ 255) :
    addU8 overflowChecks a b = some (a + b) ∧ (a + b).toNat = a.toNat + b.toNat := by
  refine ⟨if_neg fun hover => Nat.not_lt.mpr h hover.2, ?_⟩
  rw [UInt8.toNat_add]
  omega

theorem addU8_of_lt {a b : UInt8} (h : 255 < a.toNat + b.toNat) : addU8 true a b = none :=
  if_pos ⟨rfl, h⟩

theorem subU8_of_pos {a : UInt8} (h : 0 < a.toNat) :
    subU8 overflowChecks a 1 = some (a - 1) ∧ (a - 1).toNat = a.toNat - 1 := by
  have hle : (1 : UInt8) ≤ a := UInt8.le_iff_toNat_le.mpr h
  refine ⟨if_neg fun hlt => ?_, UInt8.toNat_sub_of_le _ _ hle⟩
  exact absurd hlt.2 (UInt8.not_lt.mpr hle)

/-- The endpoint of a response starts without a pool. -/
theorem discoverEndpoint_eq_ok {d : Delivery} {endpoint : EndpointContext}
    (h : discoverEndpoint d = .ok endpoint) :
    (∃ bytes, d = .response bytes) ∧ endpoint.minDynamicEid = 0 ∧ endpoint.maxDynamicEid = 0 := by
  rw [discoverEndpoint] at h
  cases hresp : receiveGetEid d with
  | panic message => simp only [hresp] at h; cases h
  | err e => simp only [hresp] at h; cases h
  | ok resp =>
    obtain ⟨bytes, payload, rfl, -⟩ := receiveResponse_eq_ok_iff.mp hresp
    simp only [hresp] at h
    split at h
    · cases h
    · obtain rfl := Outcome.ok.inj h
      exact ⟨⟨bytes, rfl⟩, rfl, rfl⟩

/-- An accepting response is one of the responses of the device. -/
theorem acceptEid_eq_ok {d : Delivery} {resp : SetEid.Response} (h : acceptEid d = .ok resp) :
    ∃ bytes payload, d = .response bytes ∧
      ControlPayload.tryToResponse SetEid.Response bytes = .ok (payload, resp) := by
  rw [acceptEid] at h
  cases hresp : receiveSetEid d with
  | panic message => simp only [hresp] at h; cases h
  | err e => simp only [hresp] at h; cases h
  | ok resp' =>
    simp only [hresp] at h
    split at h
    · cases h
    · split_ifs at h
      obtain rfl := Outcome.ok.inj h
      exact receiveResponse_eq_ok_iff.mp hresp

theorem offerPool_of_eq (s : State) {endpoint : EndpointContext}
    (h : endpoint.minDynamicEid = endpoint.maxDynamicEid) :
    s.offerPool endpoint = { s with phase := .top } :=
  if_neg fun hne => hne h

theorem range_eq_none_of_mem_messages {d : Delivery} {m : Message} (h : m ∈ messages d) :
    m.range = none := by
  cases d with
  | response bytes =>
    obtain rfl := List.mem_singleton.mp h
    rfl
  | _ => cases h

/-- The phases in which the response to an assignment is not awaited. -/
theorem Transition.quiet {s s' : State} {d : Delivery} (hdemand : demand s (.deliver d) = 0)
    {phase : Phase} (hphase : phase.isSettingEid = false)
    (h : s' = { s with history := s.history ++ messages d, phase }) :
    Transition s (.deliver d) s' := by
  subst h
  exact .other hdemand rfl hphase rfl fun m hm => range_eq_none_of_mem_messages hm

/-- The response to Get Endpoint ID. -/
theorem transition_of_discovered {s s' : State} {d : Delivery} (hphase : s.phase = .gettingEid)
    (hfits : s.nextEid.toNat + demand s (.deliver d) ≤ 255)
    (h : s' = State.discovered overflowChecks { s with history := s.history ++ messages d } d) :
    Transition s (.deliver d) s' := by
  rw [State.discovered] at h
  cases hd : discoverEndpoint d with
  | panic message =>
    simp only [hd] at h
    exact .quiet (by simp only [demand, hphase, hd]) rfl h
  | err e =>
    simp only [hd] at h
    exact .quiet (by simp only [demand, hphase, hd]) rfl h
  | ok endpoint =>
    obtain ⟨⟨bytes, rfl⟩, hmin, hmax⟩ := discoverEndpoint_eq_ok hd
    simp only [hd] at h
    by_cases hdynamic : endpoint.eidType = .dynamic
    · have hdemand : demand s (.deliver (.response bytes)) = 1 := by
        simp only [demand, hphase, hd, if_pos hdynamic]
      rw [hdemand] at hfits
      obtain ⟨hadd, htoNat⟩ := addU8_of_le overflowChecks
        (show s.nextEid.toNat + (1 : UInt8).toNat ≤ 255 from hfits)
      simp only [if_pos hdynamic, hadd] at h
      subst h
      refine .assign hdemand hfits hphase bytes endpoint htoNat rfl ⟨hmin, hmax⟩ s.ctx ?_
      simp only [State.send, messages, List.append_assoc, List.singleton_append]
    · rw [if_neg hdynamic, offerPool_of_eq _ (hmin.trans hmax.symm)] at h
      exact .quiet (by simp only [demand, hphase, hd, if_neg hdynamic]) rfl h

/-- Setting apart a pool that fits. -/
theorem reservePool_of_le (s : State) (endpoint : EndpointContext) {eidPoolSize : UInt8}
    (hpos : 0 < eidPoolSize.toNat) (hfits : s.nextEid.toNat + eidPoolSize.toNat ≤ 255) :
    s.reservePool overflowChecks endpoint eidPoolSize =
      if eidPoolSize = 1 then { s with nextEid := s.nextEid + eidPoolSize, phase := .top }
      else ({ s with nextEid := s.nextEid + eidPoolSize } : State).send
        (s.ctx.sendAllocateEidsRequest s.nextEid eidPoolSize) .allocatingEids := by
  obtain ⟨hadd, hsum⟩ := addU8_of_le overflowChecks hfits
  have hsumpos : 0 < (s.nextEid + eidPoolSize).toNat := by omega
  obtain ⟨hsub, hmax⟩ := subU8_of_pos overflowChecks hsumpos
  have hsingle : s.nextEid = s.nextEid + eidPoolSize - 1 ↔ eidPoolSize = 1 := by
    rw [← UInt8.toNat_inj, ← UInt8.toNat_inj, hmax, hsum]
    change _ ↔ eidPoolSize.toNat = 1
    omega
  rw [State.reservePool, hadd]
  simp only [hsub, State.offerPool, ne_eq, hsingle, ite_not]

/-- The response to Set Endpoint ID. -/
theorem transition_of_assigned {s s' : State} {endpoint : EndpointContext} {d : Delivery}
    (hphase : s.phase = .settingEid endpoint)
    (hpool : endpoint.minDynamicEid = 0 ∧ endpoint.maxDynamicEid = 0)
    (hfits : s.nextEid.toNat + demand s (.deliver d) ≤ 255)
    (h : s' = State.assigned overflowChecks { s with history := s.history ++ messages d }
      endpoint d) : Transition s (.deliver d) s' := by
  rw [State.assigned] at h
  cases hd : acceptEid d with
  | panic message =>
    simp only [hd] at h
    exact .quiet (by simp only [demand, hphase, hd]) rfl h
  | err e =>
    simp only [hd] at h
    exact .quiet (by simp only [demand, hphase, hd]) rfl h
  | ok resp =>
    obtain ⟨bytes, payload, rfl, hresp⟩ := acceptEid_eq_ok hd
    simp only [hd] at h
    by_cases hrequires :
        RequiresPool { endpoint with eidAllocationStatus := resp.eidAllocationStatus } resp
    · have hdemand : demand s (.deliver (.response bytes)) = resp.eidPoolSize.toNat := by
        simp only [demand, hphase, hd, if_pos hrequires]
      have hpos : 0 < resp.eidPoolSize.toNat := hrequires.2.2
      rw [hdemand] at hfits
      have hreserve := reservePool_of_le overflowChecks
        { s with history := s.history ++ messages (.response bytes) }
        { endpoint with eidAllocationStatus := resp.eidAllocationStatus } hpos hfits
      have hnext := (addU8_of_le overflowChecks hfits).2
      rw [if_pos hrequires, hreserve] at h
      by_cases hone : resp.eidPoolSize = 1
      · rw [if_pos hone] at h
        subst h
        refine .reserve hphase hresp hpos hdemand hfits hnext rfl s.ctx ?_
        rw [if_pos hone]
        rfl
      · rw [if_neg hone] at h
        subst h
        refine .reserve hphase hresp hpos hdemand hfits hnext rfl s.ctx ?_
        rw [if_neg hone]
        simp only [State.send, messages, List.append_assoc, List.singleton_append]
    · rw [if_neg hrequires] at h
      exact .quiet (by simp only [demand, hphase, hd, if_neg hrequires]) rfl
        (h.trans (offerPool_of_eq _ (hpool.1.trans hpool.2.symm)))

/-- The responses that end a round or a ping leave the EIDs alone. -/
theorem transition_of_allocated {s s' : State} {d : Delivery} (hphase : s.phase = .allocatingEids)
    (h : s' = State.allocated { s with history := s.history ++ messages d } d) :
    Transition s (.deliver d) s' := by
  have hdemand : demand s (.deliver d) = 0 := by simp only [demand, hphase]
  rw [State.allocated] at h
  split at h
  · exact .quiet hdemand rfl h
  · exact .quiet hdemand rfl h
  · split at h
    · exact .quiet hdemand rfl h
    · split_ifs at h
      · exact .quiet hdemand rfl h
      · exact .quiet hdemand rfl h

theorem transition_of_pinged {s s' : State} {d : Delivery} (hphase : s.phase = .pinging)
    (h : s' = State.pinged { s with history := s.history ++ messages d } d) :
    Transition s (.deliver d) s' := by
  have hdemand : demand s (.deliver d) = 0 := by simp only [demand, hphase]
  rw [State.pinged] at h
  split at h
  · exact .quiet hdemand rfl h
  · exact .quiet hdemand rfl h
  · split at h <;> exact .quiet hdemand rfl h

/-- Between two rounds the loop changes its phase, and may send Get Endpoint ID. -/
theorem exists_phase_of_step {pingEid : UInt8} {s s' : State} {e : Event}
    (he : e = .turn ∨ e = .wake) (h : step overflowChecks pingEid s e = some s') :
    ∃ phase : Phase, phase.isSettingEid = false ∧ phase ≠ .overflowed ∧
      (s' = { s with phase } ∨ ∃ (ctx : MctpEndpointContext) (destEid : UInt8),
        s' = s.send (ctx.sendGetEidRequest destEid) phase) := by
  rcases he with rfl | rfl
  · cases hphase : s.phase with
    | top =>
      simp only [step, hphase] at h
      split_ifs at h
      · exact ⟨.gettingEid, rfl, nofun, .inr ⟨_, 0, (Option.some.inj h).symm⟩⟩
      · exact ⟨.sleeping, rfl, nofun, .inl (Option.some.inj h).symm⟩
    | _ =>
      simp only [step, hphase] at h
      cases h
  · cases hphase : s.phase with
    | sleeping =>
      simp only [step, hphase] at h
      split_ifs at h
      · exact ⟨.pinging, rfl, nofun, .inr ⟨_, pingEid, (Option.some.inj h).symm⟩⟩
      · exact ⟨.top, rfl, nofun, .inl (Option.some.inj h).symm⟩
    | _ =>
      simp only [step, hphase] at h
      cases h

/-- Between two rounds no EID is taken. -/
theorem transition_of_turn_or_wake {pingEid : UInt8} {s s' : State} {e : Event}
    (he : e = .turn ∨ e = .wake) (h : step overflowChecks pingEid s e = some s') :
    Transition s e s' := by
  have hdemand : demand s e = 0 := by rcases he with rfl | rfl <;> rfl
  obtain ⟨phase, hset, -, rfl | ⟨ctx, destEid, rfl⟩⟩ := exists_phase_of_step overflowChecks he h
  · exact .other hdemand rfl hset (List.append_nil _).symm nofun
  · refine .other hdemand rfl hset rfl fun m hm => ?_
    obtain rfl := List.mem_singleton.mp hm
    exact range_sendGetEidRequest ctx destEid

/-- Every step whose EIDs fit into a byte is one of the transitions. -/
theorem transition_of_step {pingEid : UInt8} {s s' : State} {e : Event}
    (hpool : ∀ endpoint, s.phase = .settingEid endpoint →
      endpoint.minDynamicEid = 0 ∧ endpoint.maxDynamicEid = 0)
    (hfits : s.nextEid.toNat + demand s e ≤ 255)
    (h : step overflowChecks pingEid s e = some s') : Transition s e s' := by
  cases e with
  | turn => exact transition_of_turn_or_wake overflowChecks (.inl rfl) h
  | wake => exact transition_of_turn_or_wake overflowChecks (.inr rfl) h
  | handleRequest bytes =>
    obtain rfl := Option.some.inj h
    exact .respond rfl rfl rfl rfl
  | deliver d =>
    cases hphase : s.phase with
    | gettingEid =>
      simp only [step, hphase, Option.some.injEq] at h
      exact transition_of_discovered overflowChecks hphase hfits (hphase ▸ h.symm)
    | settingEid endpoint =>
      simp only [step, hphase, Option.some.injEq] at h
      exact transition_of_assigned overflowChecks hphase (hpool endpoint hphase) hfits
        (hphase ▸ h.symm)
    | allocatingEids =>
      simp only [step, hphase, Option.some.injEq] at h
      exact transition_of_allocated hphase (hphase ▸ h.symm)
    | pinging =>
      simp only [step, hphase, Option.some.injEq] at h
      exact transition_of_pinged hphase (hphase ▸ h.symm)
    | _ =>
      simp only [step, hphase] at h
      cases h

end Inversion

end BusOwner

end MctpEmu
