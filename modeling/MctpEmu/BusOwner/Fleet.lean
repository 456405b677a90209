import MctpEmu.BusOwner.Conversation
import MctpEmu.BusOwner.Responses
import MctpEmu.Library.KeyedFifo

/-!
# A bus owner and the endpoints that it discovers

The transport of a bus owner has one address, so that one endpoint is attached at a time; another
one may take its place whenever it likes. Every endpoint runs the responder of the bus owner itself,
and both sides get a packet with the packet error code of its frame. The endpoints notify the bus
owner as they please.

## Main definitions

* `BusOwner.Fleet`: the loop of the bus owner, the endpoints, and the EIDs that they have accepted.
* `BusOwner.Fleet.step`: one step of the loop, or of an endpoint.
* `BusOwner.Fleet.Sound`: the invariant of all runs.
* `BusOwner.Fleet.Answered`: what an answer does, case by case.

## Main results

* `BusOwner.exists_reply_getEid`, `BusOwner.exists_reply_setEid`: how an endpoint answers.
* `BusOwner.Fleet.assigns_in_order`: the discovery does not fail, and it hands out one EID after the
  other.
-/

namespace MctpEmu

namespace BusOwner

/-! ### The answers of an endpoint -/

/-- What a bus owner learns of an endpoint that runs the responder. -/
def simpleEndpoint : EndpointContext := ⟨0, .simple, .dynamic, .noPoolSupport, 0, 0, 0⟩

section Answers

variable (endpoint requester : MctpEndpointContext)

/-- An endpoint describes itself as a simple one with a dynamic EID. -/
theorem exists_reply_getEid (destEid requestPec : UInt8) :
    ∃ reply, endpoint.handleRequest
        (((Request.getEid destEid).send requester).1 ++ [requestPec]) = (.ok reply, endpoint) ∧
      ∀ pec, discoverEndpoint (.response (reply ++ [pec])) = .ok simpleEndpoint ∧
        ∃ resp, receiveGetEid (.response (reply ++ [pec])) = .ok resp ∧
          isSuccess resp.completionCode = .ok () := by
  obtain ⟨b₀, b₁, b₂, b₃, b₄, b₅, hsend⟩ := (Request.getEid destEid).exists_send_eq requester
  have hreply := endpoint.handleRequest_getEndpointID b₀ b₁ b₂ b₃ b₄ b₅ [requestPec]
  refine ⟨_, (congrArg (fun bytes => endpoint.handleRequest (bytes ++ [requestPec])) hsend).trans
    hreply, fun pec => ?_⟩
  let resp : GetEid.Response :=
    ⟨⟨#v[b₄, b₅ &&& (0x7F : UInt8)], .getEndpointID⟩, 0, 0, #v[0], 0⟩
  have hresp : trySized GetEid.Response (b₄ :: (b₅ &&& (0x7F : UInt8)) :: 0x02 ::
      CompletionCode.success.toU8 :: [0, 0, 0, pec]) = .ok resp := rfl
  obtain ⟨payload, hread, -⟩ :=
    MctpEndpointContext.exists_tryToResponse_reply b₁ b₂ b₃ b₄ b₅ 0x02 .success _ hresp
  have hreceive : receiveGetEid (.response (MctpEndpointContext.replyHead b₁ b₂ b₃ b₄ b₅ 0x02
      .success ++ [0, 0, 0] ++ [pec])) = .ok resp := by
    rw [List.append_assoc]
    exact receiveResponse_eq_ok_iff.mpr ⟨_, payload, rfl, hread⟩
  refine ⟨?_, resp, hreceive, rfl⟩
  have htype : resp.endpointType = 0 ∧ resp.eidType = 0 := by
    simp only [resp, GetEid.Response.endpointType, GetEid.Response.eidType]
    decide
  rw [discoverEndpoint, hreceive]
  simp only [htype]
  rfl

/-- An endpoint accepts every EID. -/
theorem exists_reply_setEid (eid requestPec : UInt8) :
    ∃ reply, endpoint.handleRequest
        (((Request.setEid eid).send requester).1 ++ [requestPec]) =
          (.ok reply, { endpoint with assignedEid := eid }) ∧
      ∀ pec, ∃ resp, acceptEid (.response (reply ++ [pec])) = .ok resp := by
  obtain ⟨b₀, b₁, b₂, b₃, b₄, b₅, hsend⟩ := (Request.setEid eid).exists_send_eq requester
  have hreply := endpoint.handleRequest_setEndpointID b₀ b₁ b₂ b₃ b₄ b₅ 0 eid [requestPec]
  refine ⟨_, (congrArg (fun bytes => endpoint.handleRequest (bytes ++ [requestPec])) hsend).trans
    hreply, fun pec => ?_⟩
  let resp : SetEid.Response :=
    ⟨⟨#v[b₄, b₅ &&& (0x7F : UInt8)], .setEndpointID⟩, 0, #v[0], eid, 0⟩
  have hresp : trySized SetEid.Response (b₄ :: (b₅ &&& (0x7F : UInt8)) :: 0x01 ::
      CompletionCode.success.toU8 :: [0, eid, 0, pec]) = .ok resp := rfl
  obtain ⟨payload, hread, -⟩ :=
    MctpEndpointContext.exists_tryToResponse_reply b₁ b₂ b₃ b₄ b₅ 0x01 .success _ hresp
  have hreceive : receiveSetEid (.response (MctpEndpointContext.replyHead b₁ b₂ b₃ b₄ b₅ 0x01
      .success ++ [0, eid, 0] ++ [pec])) = .ok resp := by
    rw [List.append_assoc]
    exact receiveResponse_eq_ok_iff.mpr ⟨_, payload, rfl, hread⟩
  refine ⟨resp, ?_⟩
  have hstatus : ¬ resp.eidAssignmentStatus ≠ 0 := by
    simp only [resp, SetEid.Response.eidAssignmentStatus]
    decide
  rw [acceptEid, hreceive]
  simp only [if_neg hstatus]
  rfl

end Answers

section Loop

variable (overflowChecks : Bool) (s : State) {d : Delivery}

/-- A dynamic endpoint gets the EID at the cursor, unless it is the last one and the build
checks. -/
theorem discovered_simpleEndpoint (h : discoverEndpoint d = .ok simpleEndpoint) :
    (s.discovered overflowChecks d = { s with phase := .overflowed } ∧ overflowChecks = true ∧
        s.nextEid = 255) ∨
      s.discovered overflowChecks d = ({ s with nextEid := s.nextEid + 1 } : State).send
          ((Request.setEid s.nextEid).send s.ctx) (.settingEid simpleEndpoint) ∧
        (overflowChecks = true → s.nextEid.toNat + 1 ≤ 255) := by
  rw [State.discovered, h]
  by_cases hover : overflowChecks = true ∧ 255 < s.nextEid.toNat + (1 : UInt8).toNat
  · refine .inl ⟨?_, hover.1, ?_⟩
    · simp only [addU8, if_pos hover]
      rfl
    · have hlt := s.nextEid.toNat_lt
      have hgt := hover.2
      change 255 < s.nextEid.toNat + 1 at hgt
      exact UInt8.toNat_inj.mp (by change s.nextEid.toNat = 255; omega)
  · refine .inr ⟨?_, fun hchecks => ?_⟩
    · simp only [addU8, if_neg hover]
      rfl
    · have hle := Nat.le_of_not_lt (not_and.mp hover hchecks)
      exact hle

/-- An endpoint without a pool is done when it has accepted its EID. -/
theorem assigned_simpleEndpoint {resp : SetEid.Response} (h : acceptEid d = .ok resp) :
    s.assigned overflowChecks simpleEndpoint d = { s with phase := .top } := by
  rw [State.assigned, h]
  have hpool : ¬ RequiresPool
      { simpleEndpoint with eidAllocationStatus := resp.eidAllocationStatus } resp := by
    rintro ⟨hbridge, -⟩
    cases hbridge
  simp only [if_neg hpool]
  rfl

theorem pinged_of_isSuccess {resp : GetEid.Response} (h : receiveGetEid d = .ok resp)
    (hsuccess : isSuccess resp.completionCode = .ok ()) :
    s.pinged d = { s with phase := .top } := by
  rw [State.pinged, h]
  simp only [hsuccess]

end Loop

/-! ### The system -/

/-- The loop of a bus owner, the endpoints that were attached before with the present one behind
them, and the EIDs that endpoints have accepted, each with the number of its endpoint. -/
structure Fleet where
  owner : State
  detached : List MctpEndpointContext
  attached : MctpEndpointContext
  assigned : List (ℕ × UInt8)
deriving DecidableEq, Repr

namespace Fleet

inductive Event
  | turn
  | wake
  /-- A packet arrives at the responder of the bus owner. -/
  | handleRequest (bytes : Bytes)
  /-- The attached endpoint answers the request of the loop. -/
  | answer (requestPec pec : UInt8)
  /-- Another endpoint takes the place of the attached one. -/
  | attach (endpoint : MctpEndpointContext)
deriving DecidableEq, Repr

section Steps

variable (overflowChecks : Bool) (pingEid : UInt8) (f : Fleet)

/-- The attached endpoint handles the last request of the loop, which gets its reply. -/
def answer (requestPec pec : UInt8) : Option Fleet :=
  match f.owner.phase.awaits, f.owner.history.getLast? with
  | true, some (.request packet) =>
    match f.attached.handleRequest (packet ++ [requestPec]) with
    | (.ok reply, attached) =>
      (BusOwner.step overflowChecks pingEid f.owner (.deliver (.response (reply ++ [pec])))).map
        fun owner => { f with
          owner
          attached
          assigned := if f.owner.phase.isSettingEid then
            f.assigned ++ [(f.detached.length, attached.assignedEid)] else f.assigned }
    | _ => none
  | _, _ => none

/-- One step of the loop, or of an endpoint. -/
def step : Event → Option Fleet
  | .turn => (BusOwner.step overflowChecks pingEid f.owner .turn).map fun owner => { f with owner }
  | .wake => (BusOwner.step overflowChecks pingEid f.owner .wake).map fun owner => { f with owner }
  | .handleRequest bytes =>
    (BusOwner.step overflowChecks pingEid f.owner (.handleRequest bytes)).map
      fun owner => { f with owner }
  | .answer requestPec pec => f.answer overflowChecks pingEid requestPec pec
  | .attach endpoint => some { f with detached := f.detached ++ [f.attached], attached := endpoint }

end Steps

/-- The start of the loop, with an endpoint. -/
def init (ctx attached : MctpEndpointContext) : Fleet := ⟨BusOwner.init ctx, [], attached, []⟩

/-- The endpoints, the attached one last. -/
def endpoints (f : Fleet) : List MctpEndpointContext := f.detached ++ [f.attached]

/-- The EID that an endpoint has accepted last. -/
def lastAssigned (assigned : List (ℕ × UInt8)) (i : ℕ) : Option UInt8 :=
  (assigned.reverse.find? fun x => decide (x.1 = i)).map Prod.snd

/-- How many EIDs the loop has taken: those that were accepted, and the one that it assigns. -/
def taken (f : Fleet) : ℕ := f.assigned.length + f.owner.phase.isSettingEid.toNat

/-! ### The invariant -/

/-- The loop rests, asks, assigns the EID before its cursor, or has come to the last EID. -/
inductive PhaseSound (overflowChecks : Bool) (s : State) : Prop
  | rests (hphase : s.phase = .top ∨ s.phase = .sleeping)
  | asks {destEid : UInt8} {ctx : MctpEndpointContext}
      (hphase : s.phase = .gettingEid ∨ s.phase = .pinging)
      (hlast : s.history.getLast? = some (.request ((Request.getEid destEid).send ctx).1))
  | assigns {eid : UInt8} {ctx : MctpEndpointContext}
      (hphase : s.phase = .settingEid simpleEndpoint)
      (hlast : s.history.getLast? = some (.request ((Request.setEid eid).send ctx).1))
      (hnext : s.nextEid = eid + 1)
  | overflows (hphase : s.phase = .overflowed) (hchecks : overflowChecks = true)
      (hnext : s.nextEid = 255)

/-- What an answer does: the loop comes to the last EID, takes the next one, is back from a ping, or
has its EID accepted. -/
inductive Answered (overflowChecks : Bool) (f : Fleet) : Fleet → Prop
  | overflow {history : List Message} (hphase : f.owner.phase = .gettingEid)
      (hchecks : overflowChecks = true) (hnext : f.owner.nextEid = 255) :
      Answered overflowChecks f { f with owner := { f.owner with phase := .overflowed, history } }
  | assign {history : List Message} (hphase : f.owner.phase = .gettingEid)
      (hchecked : overflowChecks = true → f.owner.nextEid.toNat + 1 ≤ 255) :
      Answered overflowChecks f { f with
        owner := ({ f.owner with nextEid := f.owner.nextEid + 1, history } : State).send
          ((Request.setEid f.owner.nextEid).send f.owner.ctx) (.settingEid simpleEndpoint) }
  | pinged {history : List Message} (hphase : f.owner.phase = .pinging) :
      Answered overflowChecks f { f with owner := { f.owner with phase := .top, history } }
  | accept {eid : UInt8} {history : List Message}
      (hphase : f.owner.phase = .settingEid simpleEndpoint) (hnext : f.owner.nextEid = eid + 1) :
      Answered overflowChecks f { f with
        owner := { f.owner with phase := .top, history }
        attached := { f.attached with assignedEid := eid }
        assigned := f.assigned ++ [(f.detached.length, eid)] }

/-- The answer to a request of the loop has one of these effects. -/
theorem answered_of_answer {overflowChecks : Bool} {pingEid : UInt8} {f f' : Fleet}
    (hf : PhaseSound overflowChecks f.owner) {requestPec pec : UInt8}
    (h : f.answer overflowChecks pingEid requestPec pec = some f') :
    Answered overflowChecks f f' := by
  rw [Fleet.answer] at h
  cases hf with
  | rests hphase =>
    rcases hphase with hphase | hphase <;>
    · simp only [hphase, Phase.awaits] at h
      cases h
  | overflows hphase =>
    simp only [hphase, Phase.awaits] at h
    cases h
  | @asks destEid ctx hphase hlast =>
    obtain ⟨reply, hreply, hdecode⟩ := exists_reply_getEid f.attached ctx destEid requestPec
    obtain ⟨hdiscover, resp, hreceive, hsuccess⟩ := hdecode pec
    rcases hphase with hphase | hphase
    · simp only [hphase, Phase.awaits, hlast, hreply, BusOwner.step, Option.map_some,
        Phase.isSettingEid, Bool.false_eq_true, if_false, Option.some.injEq] at h
      rcases discovered_simpleEndpoint overflowChecks _ hdiscover with
        ⟨hover, hchecks, hnext⟩ | ⟨hsend, hchecked⟩
      · rw [hover] at h
        exact h ▸ .overflow hphase hchecks hnext
      · rw [hsend] at h
        exact h ▸ .assign hphase hchecked
    · simp only [hphase, Phase.awaits, hlast, hreply, BusOwner.step, Option.map_some,
        Phase.isSettingEid, Bool.false_eq_true, if_false, Option.some.injEq,
        pinged_of_isSuccess _ hreceive hsuccess] at h
      exact h ▸ .pinged hphase
  | @assigns eid ctx hphase hlast hnext =>
    obtain ⟨reply, hreply, hdecode⟩ := exists_reply_setEid f.attached ctx eid requestPec
    obtain ⟨resp, haccept⟩ := hdecode pec
    simp only [hphase, Phase.awaits, hlast, hreply, BusOwner.step, Option.map_some,
      Phase.isSettingEid, if_true, Option.some.injEq,
      assigned_simpleEndpoint _ _ haccept] at h
    exact h ▸ .accept hphase hnext

/-- What holds in every run: the loop does not fail, the EIDs were taken one after the other, and an
endpoint has the EID that it has accepted last. -/
structure Sound (overflowChecks : Bool) (start : UInt8) (f : Fleet) : Prop where
  phase : PhaseSound overflowChecks f.owner
  nextEid : f.owner.nextEid = start + .ofNat f.taken
  eids : f.assigned.map Prod.snd = (List.range f.assigned.length).map fun k => start + .ofNat k
  taken_le : overflowChecks = true → start.toNat + f.taken ≤ 255
  index_le : ∀ x ∈ f.assigned, x.1 ≤ f.detached.length
  assignedEid : ∀ (i : ℕ) (endpoint : MctpEndpointContext) (eid : UInt8),
    f.endpoints[i]? = some endpoint → lastAssigned f.assigned i = some eid →
      endpoint.assignedEid = eid

theorem lastAssigned_concat (assigned : List (ℕ × UInt8)) (i j : ℕ) (eid : UInt8) :
    lastAssigned (assigned ++ [(j, eid)]) i =
      if j = i then some eid else lastAssigned assigned i := by
  rw [lastAssigned, List.reverse_concat, List.find?_cons]
  by_cases hj : j = i
  · simp only [hj, decide_true, Option.map_some, if_true]
  · simp only [hj, decide_false, if_false]
    rfl

theorem mem_of_lastAssigned {assigned : List (ℕ × UInt8)} {i : ℕ} {eid : UInt8}
    (h : lastAssigned assigned i = some eid) : (i, eid) ∈ assigned := by
  obtain ⟨x, hx, rfl⟩ := Option.map_eq_some_iff.mp h
  have hi := List.find?_some hx
  rw [decide_eq_true_eq] at hi
  exact hi ▸ List.mem_reverse.mp (List.mem_of_find?_eq_some hx)

namespace Sound

variable {overflowChecks : Bool} {pingEid start : UInt8} {f f' : Fleet}

theorem init (overflowChecks : Bool) (ctx attached : MctpEndpointContext) :
    Sound overflowChecks ctx.minEidInPool (init ctx attached) where
  phase := .rests (.inl rfl)
  nextEid := (UInt8.add_zero ctx.minEidInPool).symm
  eids := rfl
  taken_le _ := Nat.le_of_lt_succ ctx.minEidInPool.toNat_lt
  index_le _ hx := absurd hx List.not_mem_nil
  assignedEid i endpoint eid _ h := by cases h

/-- A step of the loop that takes no EID. -/
theorem goOn (hf : Sound overflowChecks start f) {owner : State}
    (hphase : PhaseSound overflowChecks owner) (hnext : owner.nextEid = f.owner.nextEid)
    (hsetting : owner.phase.isSettingEid = f.owner.phase.isSettingEid) :
    Sound overflowChecks start { f with owner } where
  phase := hphase
  nextEid := by
    rw [taken, hsetting]
    exact hnext.trans hf.nextEid
  eids := hf.eids
  taken_le hchecks := by
    rw [taken, hsetting]
    exact hf.taken_le hchecks
  index_le := hf.index_le
  assignedEid := hf.assignedEid

/-- Another endpoint is attached, and has accepted nothing. -/
theorem attach (hf : Sound overflowChecks start f) (endpoint : MctpEndpointContext) :
    Sound overflowChecks start
      { f with detached := f.detached ++ [f.attached], attached := endpoint } where
  phase := hf.phase
  nextEid := hf.nextEid
  eids := hf.eids
  taken_le := hf.taken_le
  index_le x hx := by
    have hle := hf.index_le x hx
    rw [List.length_append]
    exact Nat.le_add_right_of_le hle
  assignedEid i e eid hi heid := by
    rcases KeyedFifo.getElem?_concat_eq_some.mp hi with hi | ⟨rfl, rfl⟩
    · exact hf.assignedEid i e eid hi heid
    · have hle := hf.index_le _ (mem_of_lastAssigned heid)
      rw [List.length_append, List.length_singleton] at hle
      omega

/-- The loop takes the EID at its cursor, and assigns it. -/
theorem assign (hf : Sound overflowChecks start f) {owner : State} {ctx : MctpEndpointContext}
    (hsetting : f.owner.phase.isSettingEid = false)
    (hchecked : overflowChecks = true → f.owner.nextEid.toNat + 1 ≤ 255)
    (hphase : owner.phase = .settingEid simpleEndpoint)
    (hnext : owner.nextEid = f.owner.nextEid + 1)
    (hlast : owner.history.getLast? =
      some (.request ((Request.setEid f.owner.nextEid).send ctx).1)) :
    Sound overflowChecks start { f with owner } where
  phase := .assigns hphase hlast hnext
  nextEid := by
    have hall := hf.nextEid
    rw [taken, hsetting, Bool.toNat_false, Nat.add_zero] at hall
    rw [taken, hnext, hall, hphase, UInt8.add_assoc]
    exact congrArg (start + ·) (UInt8.ofNat_add f.assigned.length 1).symm
  eids := hf.eids
  taken_le hchecks := by
    have hle := hf.taken_le hchecks
    have hlt := hchecked hchecks
    have hall := congrArg UInt8.toNat hf.nextEid
    rw [taken, hsetting, Bool.toNat_false, Nat.add_zero] at hle hall
    rw [UInt8.toNat_add, UInt8.toNat_ofNat', Nat.mod_eq_of_lt (by omega)] at hall
    rw [taken, hphase]
    change start.toNat + (f.assigned.length + 1) ≤ 255
    have hsum : (start.toNat + f.assigned.length) % 2 ^ 8 = start.toNat + f.assigned.length :=
      Nat.mod_eq_of_lt (by omega)
    omega
  index_le := hf.index_le
  assignedEid := hf.assignedEid

/-- An endpoint accepts the EID that the loop assigns. -/
theorem accept (hf : Sound overflowChecks start f) {eid : UInt8} {owner : State}
    (hsetting : f.owner.phase.isSettingEid = true) (hcursor : f.owner.nextEid = eid + 1)
    (hphase : owner.phase = .top) (hnext : owner.nextEid = f.owner.nextEid) :
    Sound overflowChecks start { f with
      owner
      attached := { f.attached with assignedEid := eid }
      assigned := f.assigned ++ [(f.detached.length, eid)] } where
  phase := .rests (.inl hphase)
  nextEid := by
    have hall := hf.nextEid
    rw [taken, hsetting] at hall
    rw [taken, hnext, hall, hphase, List.length_append]
    rfl
  eids := by
    have hall := hf.nextEid
    rw [taken, hsetting, hcursor, Bool.toNat_true, UInt8.ofNat_add, ← UInt8.add_assoc] at hall
    have heid : eid = start + .ofNat f.assigned.length := (UInt8.add_left_inj 1).mp hall
    rw [List.map_append, hf.eids, List.length_append, List.length_singleton, List.range_succ,
      List.map_append, heid]
    rfl
  taken_le hchecks := by
    have hle := hf.taken_le hchecks
    rw [taken, hsetting] at hle
    rw [taken, hphase, List.length_append]
    exact hle
  index_le x hx := by
    rcases List.mem_append.mp hx with hx | hx
    · exact hf.index_le x hx
    · obtain rfl := List.mem_singleton.mp hx
      exact le_rfl
  assignedEid i e eid' hi heid := by
    rw [lastAssigned_concat] at heid
    rcases KeyedFifo.getElem?_concat_eq_some.mp hi with hi' | ⟨rfl, rfl⟩
    · obtain ⟨hlt, -⟩ := List.getElem?_eq_some_iff.mp hi'
      rw [if_neg (Nat.ne_of_gt hlt)] at heid
      exact hf.assignedEid i e eid' (KeyedFifo.getElem?_concat_eq_some.mpr (.inl hi')) heid
    · rw [if_pos rfl] at heid
      exact Option.some.inj heid

/-- The attached endpoint answers. -/
theorem answer (hf : Sound overflowChecks start f) (h : Answered overflowChecks f f') :
    Sound overflowChecks start f' := by
  cases h with
  | overflow hphase hchecks hnext =>
    exact hf.goOn (.overflows rfl hchecks hnext) rfl (by rw [hphase]; rfl)
  | assign hphase hchecked =>
    exact hf.assign (by rw [hphase]; rfl) hchecked rfl rfl List.getLast?_concat
  | pinged hphase => exact hf.goOn (.rests (.inl rfl)) rfl (by rw [hphase]; rfl)
  | accept hphase hnext => exact hf.accept (by rw [hphase]; rfl) hnext rfl rfl

/-- Every step keeps the invariant. -/
theorem step (hf : Sound overflowChecks start f) {e : Event}
    (h : Fleet.step overflowChecks pingEid f e = some f') : Sound overflowChecks start f' := by
  cases e with
  | turn =>
    obtain ⟨owner, hturn, rfl⟩ := Option.map_eq_some_iff.mp h
    obtain ⟨hphase, howner⟩ := goesOn_of_turn hturn
    have hidle : f.owner.phase.isSettingEid = false := by rw [hphase]; rfl
    split_ifs at howner
    · subst howner
      exact hf.goOn (.asks (.inl rfl) List.getLast?_concat) rfl hidle.symm
    · subst howner
      exact hf.goOn (.rests (.inr rfl)) rfl hidle.symm
  | wake =>
    obtain ⟨owner, hwake, rfl⟩ := Option.map_eq_some_iff.mp h
    obtain ⟨hphase, howner⟩ := goesOn_of_wake hwake
    have hidle : f.owner.phase.isSettingEid = false := by rw [hphase]; rfl
    split_ifs at howner
    · subst howner
      exact hf.goOn (.asks (.inr rfl) List.getLast?_concat) rfl hidle.symm
    · subst howner
      exact hf.goOn (.rests (.inl rfl)) rfl hidle.symm
  | handleRequest bytes =>
    obtain rfl := Option.some.inj h
    refine hf.goOn ?_ rfl rfl
    cases hf.phase with
    | rests hphase => exact .rests hphase
    | asks hphase hlast => exact .asks hphase hlast
    | assigns hphase hlast hnext => exact .assigns hphase hlast hnext
    | overflows hphase hchecks hnext => exact .overflows hphase hchecks hnext
  | answer requestPec pec => exact hf.answer (answered_of_answer hf.phase h)
  | attach endpoint =>
    obtain rfl := Option.some.inj h
    exact hf.attach endpoint

end Sound

theorem sound_run {overflowChecks : Bool} {pingEid : UInt8} {ctx attached : MctpEndpointContext}
    {C : Fleet → Event → Prop} {es : List Event} {f : Fleet}
    (h : StepSystem.Run (step overflowChecks pingEid) C (init ctx attached) es f) :
    Sound overflowChecks ctx.minEidInPool f :=
  h.invariant (.init overflowChecks ctx attached) fun _ _ _ hf _ hstep => hf.step hstep

section Results

variable {overflowChecks : Bool} {pingEid start : UInt8} {f : Fleet}

/-- An endpoint answers every request of the loop. -/
theorem Sound.exists_answer (hf : Sound overflowChecks start f)
    (hawaits : f.owner.phase.awaits = true) (requestPec pec : UInt8) :
    ∃ f', Fleet.step overflowChecks pingEid f (.answer requestPec pec) = some f' := by
  have hdeliver (reply : Bytes) : ∃ owner, BusOwner.step overflowChecks pingEid f.owner
      (.deliver (.response (reply ++ [pec]))) = some owner :=
    exists_step_deliver overflowChecks pingEid hawaits _
  cases hf.phase with
  | rests hphase =>
    rcases hphase with hphase | hphase <;>
    · rw [hphase] at hawaits
      cases hawaits
  | overflows hphase =>
    rw [hphase] at hawaits
    cases hawaits
  | @asks destEid ctx hphase hlast =>
    obtain ⟨reply, hreply, -⟩ := exists_reply_getEid f.attached ctx destEid requestPec
    obtain ⟨owner, howner⟩ := hdeliver reply
    simp only [Fleet.step, Fleet.answer, hawaits, hlast, hreply, howner, Option.map_some]
    exact ⟨_, rfl⟩
  | @assigns eid ctx hphase hlast =>
    obtain ⟨reply, hreply, -⟩ := exists_reply_setEid f.attached ctx eid requestPec
    obtain ⟨owner, howner⟩ := hdeliver reply
    simp only [Fleet.step, Fleet.answer, hawaits, hlast, hreply, howner, Option.map_some]
    exact ⟨_, rfl⟩

/-- The EIDs are all different where an overflow is not let through. -/
theorem Sound.nodup (hf : Sound overflowChecks start f) (hchecks : overflowChecks = true) :
    (f.assigned.map Prod.snd).Nodup := by
  have hle := hf.taken_le hchecks
  rw [taken] at hle
  have htoNat {k : ℕ} (hk : k ∈ List.range f.assigned.length) :
      (start + .ofNat k : UInt8).toNat = start.toNat + k := by
    have hlt := List.mem_range.mp hk
    rw [UInt8.toNat_add, UInt8.toNat_ofNat', Nat.mod_eq_of_lt (a := k) (by omega)]
    exact Nat.mod_eq_of_lt (by omega)
  rw [hf.eids]
  refine List.nodup_range.map_on fun k hk m hm heq => ?_
  have hsum := congrArg UInt8.toNat heq
  rw [htoNat hk, htoNat hm] at hsum
  exact Nat.add_left_cancel hsum

/-- Among endpoints that run the same responder a request is always answered, and the loop ends only
when it is to assign the EID 255 in a build with overflow checks. The EIDs that the endpoints accept
are those from `min_eid_in_pool` on, one after the other; without an overflow no two are the same;
and every endpoint keeps the EID that it has accepted last. -/
theorem assigns_in_order {ctx attached : MctpEndpointContext} {C : Fleet → Event → Prop}
    {es : List Event}
    (h : StepSystem.Run (step overflowChecks pingEid) C (init ctx attached) es f) :
    (f.owner.phase.awaits = true → ∀ requestPec pec, ∃ f',
      step overflowChecks pingEid f (.answer requestPec pec) = some f') ∧
    (f.owner.phase.isOver = true →
      overflowChecks = true ∧ f.owner.phase = .overflowed ∧ f.owner.nextEid = 255) ∧
    f.assigned.map Prod.snd =
      (List.range f.assigned.length).map (fun k => ctx.minEidInPool + .ofNat k) ∧
    (overflowChecks = true → (f.assigned.map Prod.snd).Nodup) ∧
    ∀ (i : ℕ) (endpoint : MctpEndpointContext) (eid : UInt8), f.endpoints[i]? = some endpoint →
      lastAssigned f.assigned i = some eid → endpoint.assignedEid = eid := by
  have hf := sound_run h
  refine ⟨fun hawaits => hf.exists_answer hawaits, fun hover => ?_, hf.eids,
    fun hchecks => hf.nodup hchecks, hf.assignedEid⟩
  cases hf.phase with
  | overflows hphase hchecks hnext => exact ⟨hchecks, hphase, hnext⟩
  | rests hphase =>
    rcases hphase with hphase | hphase <;>
    · rw [hphase] at hover
      cases hover
  | asks hphase =>
    rcases hphase with hphase | hphase <;>
    · rw [hphase] at hover
      cases hover
  | assigns hphase =>
    rw [hphase] at hover
    cases hover

end Results

/-- Two endpoints are discovered one after the other. -/
def sampleDiscoveries : List Event :=
  [.handleRequest [0x01, 0x00, 0x00, 0xC8, 0x00, 0x81, 0x0D], .turn, .answer 0 0, .answer 0 0,
    .attach ⟨0x00, false, 0x80, 32, 1, 1⟩,
    .handleRequest [0x01, 0x00, 0x00, 0xC8, 0x00, 0x82, 0x0D], .turn, .answer 0 0, .answer 0 0]

/-- The second endpoint has the second EID. -/
theorem assigns_in_order_sampleDiscoveries : ∃ f,
    StepSystem.Run (step true 0) (fun _ _ => True)
      (init ⟨0x00, false, 0x80, 32, 1, 1⟩ ⟨0x00, false, 0x80, 32, 1, 1⟩) sampleDiscoveries f ∧
    f.assigned = [(0, 0x80), (1, 0x81)] ∧ f.attached.assignedEid = 0x81 := by
  have hend : ((sampleDiscoveries.foldlM (step true 0)
      (init ⟨0x00, false, 0x80, 32, 1, 1⟩ ⟨0x00, false, 0x80, 32, 1, 1⟩)).map fun f =>
        (f.assigned, f.detached.length)) = some ([(0, 0x80), (1, 0x81)], 1) := by
    decide +kernel
  obtain ⟨f, hf, hresult⟩ := Option.map_eq_some_iff.mp hend
  obtain ⟨hassigned, hlength⟩ := Prod.mk.inj hresult
  have hrun := StepSystem.Run.of_foldlM_eq hf
  refine ⟨f, hrun, hassigned, ?_⟩
  refine (assigns_in_order hrun).2.2.2.2 1 f.attached 0x81 ?_ ?_
  · exact KeyedFifo.getElem?_concat_eq_some.mpr (.inr ⟨hlength.symm, rfl⟩)
  · rw [hassigned]
    rfl

end Fleet

end BusOwner

end MctpEmu
