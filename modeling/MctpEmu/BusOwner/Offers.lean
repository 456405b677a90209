import MctpEmu.BusOwner.Pool

/-!
# Pools that are set apart and pools that are offered

The loop sets EIDs apart for a bridge in one place and offers them in another, where it compares
the two ends of the range. The ends of a single EID are the same, so that a pool of this size is set
apart and never offered.

## Main definitions

* `BusOwner.offers`: the ranges that the packets of the loop offer to bridges.
* `BusOwner.AsksForPool`: the response of a bridge that requires a pool.
* `BusOwner.OffersPool`: a step offers exactly the pool that it sets apart.

## Main results

* `BusOwner.asksForPool_iff`: the steps that set a pool apart.
* `BusOwner.offersPool_iff_step`: the steps that offer it.
* `BusOwner.offersPool_iff`: the runs all of whose pools are offered.
-/

namespace MctpEmu

namespace BusOwner

/-- The request of a packet that offers a pool. -/
def Message.offer : Message → Option AllocateEids.Request
  | .request bytes => readRequest AllocateEids.Request .allocateEndpointIDs bytes
  | .response _ => none

/-- The pools that have been offered. -/
def offers (history : List Message) : List AllocateEids.Request := history.filterMap Message.offer

/-- The step delivers an accepted assignment of a bus owner or bridge that requires a pool of this
size, which is not zero. -/
def AsksForPool (s : State) (e : Event) (eidPoolSize : UInt8) : Prop :=
  ∃ endpoint d resp, s.phase = .settingEid endpoint ∧ e = .deliver d ∧ acceptEid d = .ok resp ∧
    RequiresPool { endpoint with eidAllocationStatus := resp.eidAllocationStatus } resp ∧
    resp.eidPoolSize = eidPoolSize

/-- A pool is offered exactly after the response that asks for one; what is offered are the EIDs by
which the cursor moves on, and after an assignment it moves on for nothing else. -/
structure OffersPool (s : State) (e : Event) (s' : State) : Prop where
  sent : (∃ req, offers s'.history = offers s.history ++ [req]) ↔
    ∃ eidPoolSize, AsksForPool s e eidPoolSize
  unsent : (¬ ∃ eidPoolSize, AsksForPool s e eidPoolSize) → offers s'.history = offers s.history
  exact : ∀ req, offers s'.history = offers s.history ++ [req] → req.startingEid = s.nextEid ∧
    req.startingEid.toNat + req.numberOfEids.toNat = s'.nextEid.toNat
  reserved : s.phase.isSettingEid = true → s'.nextEid ≠ s.nextEid →
    ∃ req, offers s'.history = offers s.history ++ [req]

@[simp] theorem offers_append (l l' : List Message) : offers (l ++ l') = offers l ++ offers l' :=
  List.filterMap_append

/-- A packet without EIDs offers none. -/
theorem offer_of_range_eq_none {m : Message} (h : m.range = none) : m.offer = none := by
  cases m with
  | response bytes => rfl
  | request bytes =>
    rw [Message.range] at h
    cases hset : readRequest SetEid.Request .setEndpointID bytes with
    | some req =>
      rw [hset] at h
      cases h
    | none =>
      rw [hset] at h
      exact Option.map_eq_none_iff.mp h

theorem offer_sendSetEidRequest (ctx : MctpEndpointContext) (eid : UInt8) :
    Message.offer (.request (ctx.sendSetEidRequest eid).1) = none :=
  ctx.readRequest_allocateEids_sendSetEidRequest eid

theorem offer_sendAllocateEidsRequest (ctx : MctpEndpointContext)
    (startingEid numberOfEids : UInt8) :
    ∃ req, Message.offer (.request (ctx.sendAllocateEidsRequest startingEid numberOfEids).1) =
      some req ∧ req.startingEid = startingEid ∧ req.numberOfEids = numberOfEids :=
  (ctx.readRequest_sendAllocateEidsRequest startingEid numberOfEids).2

/-! ### One step -/

section Step

variable {ctx : MctpEndpointContext} {n : ℕ} {pingEid : UInt8} {s s' : State} {e : Event}

/-- After an assignment, EIDs are taken exactly by the response that asks for a pool. -/
theorem asksForPool_iff {eidPoolSize : UInt8} :
    AsksForPool s e eidPoolSize ↔
      s.phase.isSettingEid = true ∧ 0 < eidPoolSize.toNat ∧ demand s e = eidPoolSize.toNat := by
  constructor
  · rintro ⟨endpoint, d, resp, hphase, rfl, haccept, hrequires, rfl⟩
    refine ⟨by rw [hphase]; rfl, hrequires.2.2, ?_⟩
    simp only [demand, hphase, haccept, if_pos hrequires]
  · rintro ⟨hsetting, hpos, hdemand⟩
    cases hphase : s.phase with
    | settingEid endpoint =>
      cases e with
      | deliver d =>
        cases haccept : acceptEid d with
        | ok resp =>
          simp only [demand, hphase, haccept] at hdemand
          split_ifs at hdemand with hrequires
          · exact ⟨endpoint, d, resp, hphase, rfl, haccept, hrequires, UInt8.toNat_inj.mp hdemand⟩
          · omega
        | err e | panic message =>
          simp only [demand, hphase, haccept] at hdemand
          omega
      | turn | wake | handleRequest bytes =>
        rw [demand] at hdemand
        · omega
        all_goals exact fun _ h => Event.noConfusion h
    | _ =>
      rw [hphase] at hsetting
      cases hsetting

/-- A step that takes no EIDs after an assignment and offers none. -/
theorem OffersPool.of_eq (hasks : ¬ ∃ eidPoolSize, AsksForPool s e eidPoolSize)
    (hoffers : offers s'.history = offers s.history)
    (hnext : s.phase.isSettingEid = true → s'.nextEid = s.nextEid) : OffersPool s e s' := by
  have hsame (req : AllocateEids.Request) :
      offers s'.history ≠ offers s.history ++ [req] := by
    intro hmore
    have hlen := congrArg List.length (hoffers.symm.trans hmore)
    rw [List.length_append, List.length_singleton] at hlen
    omega
  exact ⟨iff_of_false (fun ⟨req, hreq⟩ => hsame req hreq) hasks, fun _ => hoffers,
    fun req hreq => absurd hreq (hsame req), fun hset hne => absurd (hnext hset) hne⟩

/-- A step offers exactly the pool that it sets apart, unless it is a single EID. -/
theorem offersPool_iff_step (hs : Allocated ctx n s) (checks : Bool)
    (hover : ¬ Overflows pingEid s e) (h : step checks pingEid s e = some s') :
    OffersPool s e s' ↔ ¬ AsksForPool s e 1 := by
  rw [overflows_iff, Nat.not_lt] at hover
  -- Without a demand nothing is asked for.
  have hquiet (hdemand : demand s e = 0) (eidPoolSize : UInt8) :
      ¬ AsksForPool s e eidPoolSize := by
    intro hasks
    obtain ⟨-, hpos, heq⟩ := asksForPool_iff.mp hasks
    omega
  cases transition_of_step checks hs.pool hover h with
  | respond hdemand hnext hphase hhistory =>
    have hasks := hquiet hdemand
    refine iff_of_true (.of_eq (fun ⟨_, hask⟩ => hasks _ hask) ?_ fun _ => hnext) (hasks 1)
    rw [hhistory]
  | @other hdemand hnext hphase news hhistory hnews =>
    have hasks := hquiet hdemand
    refine iff_of_true (.of_eq (fun ⟨_, hask⟩ => hasks _ hask) ?_ fun _ => hnext) (hasks 1)
    have hnone : offers news = [] :=
      List.filterMap_eq_nil_iff.mpr fun m hm => offer_of_range_eq_none (hnews m hm)
    rw [hhistory, offers_append, hnone, List.append_nil]
  | assign hdemand hfits hphase bytes endpoint hnext hphase' hpool ctx hhistory =>
    have hsetting : s.phase.isSettingEid = false := by rw [hphase]; rfl
    have hasks (eidPoolSize : UInt8) : ¬ AsksForPool s e eidPoolSize := by
      intro hask
      rw [asksForPool_iff, hsetting] at hask
      cases hask.1
    refine iff_of_true (.of_eq (fun ⟨_, hask⟩ => hasks _ hask) ?_ fun hset => ?_) (hasks 1)
    · have hnone : offers [.response bytes, .request (ctx.sendSetEidRequest s.nextEid).1] = [] := by
        rw [offers, List.filterMap_cons_none rfl,
          List.filterMap_cons_none (offer_sendSetEidRequest ctx s.nextEid), List.filterMap_nil]
      rw [hhistory, offers_append, hnone, List.append_nil]
    · rw [hsetting] at hset
      cases hset
  | @reserve endpoint hphase bytes payload resp hresp hpos hdemand hfits hnext hphase' ctx'
      hhistory =>
    have hsetting : s.phase.isSettingEid = true := by rw [hphase]; rfl
    have hask : AsksForPool s e resp.eidPoolSize := asksForPool_iff.mpr ⟨hsetting, hpos, hdemand⟩
    by_cases hone : resp.eidPoolSize = 1
    · refine iff_of_false (fun hoffers => ?_) (not_not.mpr (hone ▸ hask))
      obtain ⟨req, hreq⟩ := hoffers.sent.mpr ⟨_, hask⟩
      rw [hhistory, if_pos hone, offers_append] at hreq
      have hlen := congrArg List.length hreq
      rw [List.length_append, List.length_append] at hlen
      change _ + 0 = _ + 1 at hlen
      omega
    · have hnot : ¬ AsksForPool s e 1 := by
        intro hasks
        obtain ⟨-, -, heq⟩ := asksForPool_iff.mp hasks
        exact hone (UInt8.toNat_inj.mp (hdemand.symm.trans heq))
      obtain ⟨req, hoffer, hstart, hnumber⟩ :=
        offer_sendAllocateEidsRequest ctx' s.nextEid resp.eidPoolSize
      have hmore : offers s'.history = offers s.history ++ [req] := by
        rw [hhistory, if_neg hone, offers_append]
        refine congrArg _ ?_
        rw [offers, List.filterMap_cons_none rfl, List.filterMap_cons_some hoffer,
          List.filterMap_nil]
      refine iff_of_true ⟨iff_of_true ⟨req, hmore⟩ ⟨_, hask⟩, fun hasks => absurd ⟨_, hask⟩ hasks,
        fun req' hreq' => ?_, fun _ _ => ⟨req, hmore⟩⟩ hnot
      obtain rfl := List.singleton_inj.mp (List.append_cancel_left (hmore.symm.trans hreq'))
      rw [hstart, hnumber, hnext]
      exact ⟨rfl, rfl⟩

end Step

/-! ### Runs -/

/-- The step does not overflow, and offers exactly the pool that it sets apart. -/
def StepOffersPool (overflowChecks : Bool) (pingEid : UInt8) (s : State) (e : Event) : Prop :=
  ¬ Overflows pingEid s e ∧ ∀ s', step overflowChecks pingEid s e = some s' → OffersPool s e s'

/-- The step does not overflow, and no bridge asks for a single EID. -/
def AsksForMore (pingEid : UInt8) (s : State) (e : Event) : Prop :=
  ¬ Overflows pingEid s e ∧ ¬ AsksForPool s e 1

section Run

variable {overflowChecks : Bool} {pingEid : UInt8} {ctx : MctpEndpointContext} {es : List Event}
  {s : State}

/-- Runs without an overflow keep the invariant of the cursor, so that their steps may be told apart
by it. -/
theorem run_mono_of_allocated {C D : State → Event → Prop}
    (h : StepSystem.Run (step overflowChecks pingEid) C (init ctx) es s)
    (hover : ∀ s e, C s e → ¬ Overflows pingEid s e)
    (hcond : ∀ n s e s', Allocated ctx n s → C s e → step overflowChecks pingEid s e = some s' →
      D s e) : StepSystem.Run (step overflowChecks pingEid) D (init ctx) es s := by
  refine h.mono_of_invariant (I := fun s => ∃ n, Allocated ctx n s) ⟨0, .init ctx⟩ ?_ ?_
  · intro s e s' hs hC hstep
    have hbyte := hover s e hC
    rw [overflows_iff, Nat.not_lt] at hbyte
    exact exists_allocated_of_step hs hbyte hstep
  · rintro s e s' ⟨n, hs⟩ hC hstep
    exact hcond n s e s' hs hC hstep

/-- While no bridge asks for a single EID, every EID below the cursor has been handed out. -/
theorem covers_run (h : StepSystem.Run (step overflowChecks pingEid) (AsksForMore pingEid)
    (init ctx) es s) :
    Ledger.Covers ctx.minEidInPool.toNat (ranges s.history) s.nextEid.toNat := by
  refine (h.invariant (I := fun s => (∃ n, Allocated ctx n s) ∧
    Ledger.Covers ctx.minEidInPool.toNat (ranges s.history) s.nextEid.toNat)
    ⟨⟨0, .init ctx⟩, .nil _⟩ ?_).2
  rintro s e s' ⟨⟨n, hs⟩, hcovers⟩ ⟨hover, hasks⟩ hstep
  rw [overflows_iff, Nat.not_lt] at hover
  refine ⟨exists_allocated_of_step ⟨n, hs⟩ hover hstep, ?_⟩
  have htransition := transition_of_step overflowChecks hs.pool hover hstep
  rcases htransition.ranges_eq with ⟨hnot, hsame⟩ | ⟨-, hmore⟩
  · have hnone : demand s e = 0 := by
      by_contra hdemand
      obtain ⟨hsetting, hone⟩ := not_not.mp fun hsingle => hnot ⟨hdemand, hsingle⟩
      exact hasks (asksForPool_iff.mpr ⟨hsetting, Nat.one_pos, hone⟩)
    rw [hsame, htransition.nextEid_eq, hnone, Nat.add_zero]
    exact hcovers
  · rw [hmore, htransition.nextEid_eq]
    exact hcovers.alloc _

end Run

/-- In a run without overflows, every pool that is set apart is offered, and nothing else, exactly
when no bridge asks for a pool of one EID; in such a run every EID below the cursor has been
assigned or offered. -/
theorem offersPool_iff (overflowChecks : Bool) (pingEid : UInt8) (ctx : MctpEndpointContext)
    (es : List Event) (s : State) :
    (StepSystem.Run (step overflowChecks pingEid) (StepOffersPool overflowChecks pingEid) (init ctx)
        es s ↔
      StepSystem.Run (step overflowChecks pingEid) (AsksForMore pingEid) (init ctx) es s) ∧
    (StepSystem.Run (step overflowChecks pingEid) (AsksForMore pingEid) (init ctx) es s →
      ∀ eid, ctx.minEidInPool.toNat ≤ eid → eid < s.nextEid.toNat →
        ∃ r ∈ ranges s.history, eid ∈ Set.Ico r.1 r.2) := by
  refine ⟨⟨fun h => ?_, fun h => ?_⟩, fun h => covers_run h⟩
  · refine run_mono_of_allocated h (fun _ _ hC => hC.1) fun n s e s' hs hC hstep => ⟨hC.1, ?_⟩
    exact (offersPool_iff_step hs overflowChecks hC.1 hstep).mp (hC.2 s' hstep)
  · refine run_mono_of_allocated h (fun _ _ hC => hC.1) fun n s e _ hs hC _ =>
      ⟨hC.1, fun s' hstep => ?_⟩
    exact (offersPool_iff_step hs overflowChecks hC.1 hstep).mpr hC.2

/-- A bridge that asks for four EIDs is offered them. -/
theorem offersPool_iff_sampleDiscovery :
    StepSystem.Run (step true 0) (StepOffersPool true 0) (init sampleContext) (sampleDiscovery 4)
      (sampleDiscovered 4 0x85) ∧
    ∀ eid, 0x80 ≤ eid → eid < 0x85 →
      ∃ r ∈ ranges (sampleDiscovered 4 0x85).history, eid ∈ Set.Ico r.1 r.2 := by
  have hmore (s : State) (e : Event) (hbyte : s.nextEid.toNat + demand s e ≤ 255)
      (hdemand : s.phase.isSettingEid = true → demand s e ≠ 1) : AsksForMore 0 s e := by
    refine ⟨fun hover => ?_, fun hasks => ?_⟩
    · rw [overflows_iff] at hover
      omega
    · obtain ⟨hsetting, -, hone⟩ := asksForPool_iff.mp hasks
      exact hdemand hsetting hone
  have hrun : StepSystem.Run (step true 0) (AsksForMore 0) (init sampleContext)
      (sampleDiscovery 4) (sampleDiscovered 4 0x85) :=
    run_sampleDiscovery (hmore _ _ (by decide) (by decide))
      (hmore _ _ (by decide +kernel) (by decide))
      (hmore _ _ (by decide +kernel) (by decide +kernel)) rfl
  obtain ⟨hiff, hcovers⟩ := offersPool_iff true 0 sampleContext (sampleDiscovery 4)
    (sampleDiscovered 4 0x85)
  exact ⟨hiff.mpr hrun, hcovers hrun⟩

/-- The state after a discovery with a pool of one EID. -/
def sampleReserved : State :=
  ⟨⟨0x00, false, 0x80, 32, 3, 3⟩, 0x82, .top,
    [.request [0x01, 0x00, 0x00, 0xC9, 0x00, 0x81, 0x02], .response sampleBridge,
      .request [0x01, 0x00, 0x00, 0xCA, 0x00, 0x82, 0x01, 0x00, 0x80],
      .response (sampleAcceptance 1)]⟩

/-- A bridge that asks for one EID is offered none, and the EID `0x81` is lost. -/
theorem not_offersPool_sampleDiscovery :
    StepSystem.Run (step true 0) (fun s e => ¬ Overflows 0 s e) (init sampleContext)
      (sampleDiscovery 1) sampleReserved ∧
    AsksForPool sampleAssigning (.deliver (.response (sampleAcceptance 1))) 1 ∧
    sampleAssigning.nextEid = 0x81 ∧ sampleReserved.nextEid = 0x82 ∧
    offers sampleReserved.history = [] ∧
    ¬ OffersPool sampleAssigning (.deliver (.response (sampleAcceptance 1))) sampleReserved := by
  have hasks : AsksForPool sampleAssigning (.deliver (.response (sampleAcceptance 1))) 1 :=
    asksForPool_iff.mpr ⟨rfl, Nat.one_pos, rfl⟩
  have hover (s : State) (e : Event) (hbyte : s.nextEid.toNat + demand s e ≤ 255) :
      ¬ Overflows 0 s e := by
    rw [overflows_iff]
    omega
  refine ⟨run_sampleDiscovery (hover _ _ (by decide)) (hover _ _ (by decide +kernel))
    (hover _ _ (by decide +kernel)) rfl, hasks, rfl, rfl, by decide +kernel, fun h => ?_⟩
  obtain ⟨req, hreq⟩ := h.sent.mpr ⟨1, hasks⟩
  have hnone : offers sampleReserved.history = [] := by decide +kernel
  rw [hnone] at hreq
  exact absurd hreq.symm (List.append_ne_nil_of_right_ne_nil _ (List.cons_ne_nil _ _))

end BusOwner

end MctpEmu
