import MctpEmu.BusOwner.Allocation

/-!
# The pool of a bus owner

The loop never looks at the size of its pool: whether it stays inside is decided by the devices.

## Main definitions

* `BusOwner.Overflows`: an addition of the step overflows.
* `BusOwner.RespectsPool`: a run that stays inside of the pool.
* `BusOwner.Fits`: the EIDs that a step takes fit into the pool.

## Main results

* `BusOwner.overflows_iff`: a step overflows when its EIDs do not fit into a byte.
* `BusOwner.exists_discovery`: an assignment that awaits its response belongs to a discovery.
* `BusOwner.respectsPool_iff_fits`: the runs that stay inside of the pool.
* `BusOwner.not_respectsPool_sampleDiscovery`: a bridge that asks for more than the pool gets it.
-/

namespace MctpEmu

namespace BusOwner

open StepSystem

/-- With overflow checks, the step panics on an addition. -/
def Overflows (pingEid : UInt8) (s : State) (e : Event) : Prop :=
  s.phase ≠ .overflowed ∧ ∃ s', step true pingEid s e = some s' ∧ s'.phase = .overflowed

/-- The first EID behind the pool. -/
def poolEnd (ctx : MctpEndpointContext) : ℕ := ctx.minEidInPool.toNat + ctx.eidPoolSize.toNat

/-- No addition of the run overflows, and the EIDs that it hands out lie in the pool. A discovery,
from one turn of the loop to the next, that takes EIDs behind the pool hands out none at all. -/
structure RespectsPool (overflowChecks : Bool) (pingEid : UInt8) (ctx : MctpEndpointContext)
    (es : List Event) (s : State) : Prop where
  noOverflow : Run (step overflowChecks pingEid) (fun s e => ¬ Overflows pingEid s e) (init ctx)
    es s
  inPool : ∀ r ∈ ranges s.history, ctx.minEidInPool.toNat ≤ r.1 ∧ r.2 ≤ poolEnd ctx
  exceeding : ∀ (before discovery after : List Event) (t t' : State),
    es = before ++ .turn :: discovery ++ after → .turn ∉ discovery →
    Run (step overflowChecks pingEid) (fun _ _ => True) (init ctx) before t →
    Run (step overflowChecks pingEid) (fun _ _ => True) t (.turn :: discovery) t' →
    poolEnd ctx < t.nextEid.toNat + taken overflowChecks pingEid t (.turn :: discovery) →
    ranges t'.history = ranges t.history

/-- The EIDs that the step takes, if it takes any, fit into a byte and into the pool. -/
def Fits (ctx : MctpEndpointContext) (s : State) (e : Event) : Prop :=
  demand s e ≠ 0 →
    s.nextEid.toNat + demand s e ≤ 255 ∧ s.nextEid.toNat + demand s e ≤ poolEnd ctx

/-! ### Overflows -/

theorem overflowed_offerPool (s : State) (endpoint : EndpointContext) :
    (s.offerPool endpoint).phase ≠ .overflowed := by
  unfold State.offerPool
  split_ifs
  · intro h
    cases h
  · intro h
    cases h

theorem overflowed_reservePool_iff (s : State) (endpoint : EndpointContext) {eidPoolSize : UInt8}
    (hpos : 0 < eidPoolSize.toNat) : (s.reservePool true endpoint eidPoolSize).phase = .overflowed ↔
      255 < s.nextEid.toNat + eidPoolSize.toNat := by
  rcases Nat.lt_or_ge 255 (s.nextEid.toNat + eidPoolSize.toNat) with hover | hfits
  · simp only [State.reservePool, addU8_of_lt hover]
    exact ⟨fun _ => hover, fun _ => trivial⟩
  · rw [reservePool_of_le true s endpoint hpos hfits]
    refine ⟨fun h => ?_, fun h => absurd h (Nat.not_lt.mpr hfits)⟩
    split_ifs at h
    cases h

theorem overflowed_discovered_iff {s : State} {d : Delivery} (hphase : s.phase = .gettingEid) :
    (State.discovered true { s with history := s.history ++ messages d } d).phase = .overflowed ↔
      255 < s.nextEid.toNat + demand s (.deliver d) := by
  have hbyte := s.nextEid.toNat_lt
  cases hd : discoverEndpoint d with
  | panic message | err e =>
    simp only [State.discovered, hd, demand, hphase]
    refine ⟨fun h => ?_, fun h => by omega⟩
    cases h
  | ok endpoint =>
    by_cases hdynamic : endpoint.eidType = .dynamic
    · simp only [State.discovered, hd, demand, hphase, if_pos hdynamic]
      rcases Nat.lt_or_ge 255 (s.nextEid.toNat + 1) with hover | hfits
      · rw [addU8_of_lt (show 255 < s.nextEid.toNat + (1 : UInt8).toNat from hover)]
        exact ⟨fun _ => hover, fun _ => rfl⟩
      · rw [(addU8_of_le true (show s.nextEid.toNat + (1 : UInt8).toNat ≤ 255 from hfits)).1]
        refine ⟨fun h => ?_, fun h => absurd h (Nat.not_lt.mpr hfits)⟩
        cases h
    · simp only [State.discovered, hd, demand, hphase, if_neg hdynamic]
      exact ⟨fun h => absurd h (overflowed_offerPool _ _), fun h => by omega⟩

theorem overflowed_assigned_iff {s : State} {endpoint : EndpointContext} {d : Delivery}
    (hphase : s.phase = .settingEid endpoint) :
    (State.assigned true { s with history := s.history ++ messages d } endpoint d).phase =
        .overflowed ↔ 255 < s.nextEid.toNat + demand s (.deliver d) := by
  have hbyte := s.nextEid.toNat_lt
  cases hd : acceptEid d with
  | panic message | err e =>
    simp only [State.assigned, hd, demand, hphase]
    refine ⟨fun h => ?_, fun h => by omega⟩
    cases h
  | ok resp =>
    by_cases hrequires :
        RequiresPool { endpoint with eidAllocationStatus := resp.eidAllocationStatus } resp
    · simp only [State.assigned, hd, demand, hphase, if_pos hrequires]
      exact overflowed_reservePool_iff _ _ hrequires.2.2
    · simp only [State.assigned, hd, demand, hphase, if_neg hrequires]
      exact ⟨fun h => absurd h (overflowed_offerPool _ _), fun h => by omega⟩

theorem overflowed_allocated (s : State) (d : Delivery) :
    (s.allocated d).phase ≠ .overflowed := by
  intro h
  rw [State.allocated] at h
  split at h
  · cases h
  · cases h
  · split at h
    · cases h
    · split_ifs at h

theorem overflowed_pinged (s : State) (d : Delivery) : (s.pinged d).phase ≠ .overflowed := by
  intro h
  rw [State.pinged] at h
  split at h
  · cases h
  · cases h
  · split at h
    · cases h
    · cases h

/-- A step overflows exactly when its EIDs do not fit into a byte. -/
theorem overflows_iff (pingEid : UInt8) (s : State) (e : Event) :
    Overflows pingEid s e ↔ 255 < s.nextEid.toNat + demand s e := by
  have hbyte := s.nextEid.toNat_lt
  -- Only the responses of a discovery take EIDs.
  have hnone : ∀ {e : Event}, demand s e = 0 →
      (∀ s', step true pingEid s e = some s' → s.phase ≠ .overflowed → s'.phase ≠ .overflowed) →
      (Overflows pingEid s e ↔ 255 < s.nextEid.toNat + demand s e) := by
    intro e hdemand hkeep
    refine ⟨?_, fun h => by omega⟩
    rintro ⟨hphase, s', hstep, hover⟩
    exact absurd hover (hkeep s' hstep hphase)
  have hsome : ∀ {e : Event} {s' : State}, step true pingEid s e = some s' →
      s.phase ≠ .overflowed → (Overflows pingEid s e ↔ s'.phase = .overflowed) := by
    intro e s' hstep hphase
    refine ⟨?_, fun h => ⟨hphase, s', hstep, h⟩⟩
    rintro ⟨-, t, ht, hover⟩
    obtain rfl := Option.some.inj (ht.symm.trans hstep)
    exact hover
  cases e with
  | turn =>
    refine hnone rfl fun s' hstep _ => ?_
    obtain ⟨phase, -, hne, rfl | ⟨ctx, destEid, rfl⟩⟩ :=
      exists_phase_of_step true (.inl rfl) hstep <;> exact hne
  | wake =>
    refine hnone rfl fun s' hstep _ => ?_
    obtain ⟨phase, -, hne, rfl | ⟨ctx, destEid, rfl⟩⟩ :=
      exists_phase_of_step true (.inr rfl) hstep <;> exact hne
  | handleRequest bytes =>
    refine hnone rfl fun s' hstep hphase => ?_
    obtain rfl := Option.some.inj hstep
    exact hphase
  | deliver d =>
    cases hphase : s.phase with
    | gettingEid =>
      have hstep : step true pingEid s (.deliver d) =
          some (State.discovered true { s with history := s.history ++ messages d } d) := by
        simp only [step, hphase]
      exact (hsome hstep fun h => by cases hphase ▸ h).trans (overflowed_discovered_iff hphase)
    | settingEid endpoint =>
      have hstep : step true pingEid s (.deliver d) = some (State.assigned true
          { s with history := s.history ++ messages d } endpoint d) := by
        simp only [step, hphase]
      exact (hsome hstep fun h => by cases hphase ▸ h).trans (overflowed_assigned_iff hphase)
    | allocatingEids =>
      refine hnone (by simp only [demand, hphase]) fun s' hstep _ => ?_
      simp only [step, hphase, Option.some.injEq] at hstep
      subst hstep
      exact overflowed_allocated _ _
    | pinging =>
      refine hnone (by simp only [demand, hphase]) fun s' hstep _ => ?_
      simp only [step, hphase, Option.some.injEq] at hstep
      subst hstep
      exact overflowed_pinged _ _
    | _ =>
      refine hnone (by simp only [demand, hphase]) fun s' hstep _ => ?_
      simp only [step, hphase] at hstep
      cases hstep

/-! ### The EIDs of a part of a run -/

section Segments

variable {ctx : MctpEndpointContext} {pingEid : UInt8} {s s' t : State} {e : Event}
  {overflowChecks : Bool} {C : State → Event → Prop} {es : List Event}

/-- Without an overflow the invariant of the cursor is kept. -/
theorem exists_allocated_of_step {checks : Bool} (hs : ∃ n, Allocated ctx n s)
    (hbyte : s.nextEid.toNat + demand s e ≤ 255) (h : step checks pingEid s e = some s') :
    ∃ n, Allocated ctx n s' := by
  obtain ⟨n, hs⟩ := hs
  exact ⟨n + demand s e, hs.step (transition_of_step checks hs.pool hbyte h)⟩

/-- A part of a run from `t` to `s` has moved the cursor on by the EIDs that it has taken, and if it
awaits the response to an assignment, this assignment is one of what it has handed out. -/
structure Segment (overflowChecks : Bool) (pingEid : UInt8) (ctx : MctpEndpointContext) (t : State)
    (es : List Event) (s : State) : Prop where
  allocated : ∃ n, Allocated ctx n s
  nextEid_eq : s.nextEid.toNat = t.nextEid.toNat + taken overflowChecks pingEid t es
  ranges_eq : ∃ more, ranges s.history = ranges t.history ++ more ∧
    (s.phase.isSettingEid = true → t.phase.isSettingEid = true ∨ more ≠ [])

/-- A run without overflows that goes on from a state of a run is such a part. -/
theorem segment_run (ht : ∃ n, Allocated ctx n t)
    (h : Run (step overflowChecks pingEid) (fun s e => ¬ Overflows pingEid s e) t es s) :
    Segment overflowChecks pingEid ctx t es s := by
  induction h with
  | nil => exact ⟨ht, rfl, [], (List.append_nil _).symm, .inl⟩
  | @snoc es s s' e hrun hstep hover ih =>
    rw [overflows_iff, Nat.not_lt] at hover
    obtain ⟨n, hs⟩ := ih.allocated
    obtain ⟨more, hranges, hsetting⟩ := ih.ranges_eq
    have htransition := transition_of_step overflowChecks hs.pool hover hstep
    refine ⟨exists_allocated_of_step ⟨n, hs⟩ hover hstep, ?_, ?_⟩
    · rw [htransition.nextEid_eq, ih.nextEid_eq, taken, taken, hrun.trace_snoc, List.sum_append,
        List.sum_singleton, Nat.add_assoc]
    · rcases htransition.ranges_eq with ⟨-, hsame⟩ | ⟨-, hmore⟩
      · refine ⟨more, hsame.trans hranges, fun hset => hsetting ?_⟩
        -- A step that hands out nothing and awaits an assignment has awaited it before.
        cases htransition with
        | respond hdemand hnext hphase => exact hphase ▸ hset
        | other hdemand hnext hphase | reserve hphase' hresp hpos hdemand hfits hnext hphase =>
          exact absurd hset (Bool.eq_false_iff.mp hphase)
        | assign hdemand hfits hphase bytes endpoint hnext hphase' hpool ctx' hhistory =>
          exfalso
          have hlen := congrArg List.length hsame
          rw [hhistory, ranges_append, List.length_append] at hlen
          have hone : (ranges [.response bytes,
              .request (ctx'.sendSetEidRequest s.nextEid).1]).length = 1 := by
            simp only [ranges, List.filterMap_cons, range_sendSetEidRequest, List.filterMap_nil]
            rfl
          omega
      · refine ⟨more ++ [(s.nextEid.toNat, s.nextEid.toNat + demand s e)], ?_, fun _ => .inr ?_⟩
        · rw [hmore, hranges, List.append_assoc]
        · exact List.append_ne_nil_of_right_ne_nil _ (List.cons_ne_nil _ _)

/-- The part of a run behind its last turn. -/
theorem exists_last_turn (es : List Event) :
    .turn ∉ es ∨ ∃ before discovery, es = before ++ .turn :: discovery ∧ .turn ∉ discovery := by
  by_cases hturn : Event.turn ∈ es
  · obtain ⟨after, before, hreverse, hnot⟩ :=
      List.eq_append_cons_of_mem (List.mem_reverse.mpr hturn)
    refine .inr ⟨before.reverse, after.reverse, ?_, fun hmem => hnot (List.mem_reverse.mp hmem)⟩
    rw [← List.reverse_reverse es, hreverse, List.reverse_append, List.reverse_cons,
      List.append_assoc, List.singleton_append]
  · exact .inl hturn

/-- Before its first turn the loop stands at its head. -/
theorem phase_of_turn_notMem
    (h : Run (step overflowChecks pingEid) C (init ctx) es s) (hturn : .turn ∉ es) :
    s.phase = .top := by
  induction h with
  | nil => rfl
  | @snoc es s s' e _ hstep _ ih =>
    have hphase := ih fun hmem => hturn (List.mem_append_left _ hmem)
    cases e with
    | turn => exact absurd (List.mem_append_right _ (List.mem_singleton_self _)) hturn
    | handleRequest bytes =>
      obtain rfl := Option.some.inj hstep
      exact hphase
    | wake | deliver d =>
      simp only [step, hphase] at hstep
      cases hstep

/-- The loop stands at its head when it turns. -/
theorem phase_of_turn (h : step overflowChecks pingEid t .turn = some s) : t.phase = .top := by
  rw [step] at h
  split at h
  · assumption
  · cases h

/-- The response that an assignment awaits ends the run so far of a discovery, which has handed out
the assigned EID. -/
theorem exists_discovery
    (h : Run (step overflowChecks pingEid) (fun s e => ¬ Overflows pingEid s e) (init ctx) es s)
    (hsetting : s.phase.isSettingEid = true) :
    ∃ before discovery t, es = before ++ .turn :: discovery ∧ .turn ∉ discovery ∧
      Run (step overflowChecks pingEid) (fun _ _ => True) (init ctx) before t ∧
      Run (step overflowChecks pingEid) (fun _ _ => True) t (.turn :: discovery) s ∧
      s.nextEid.toNat =
        t.nextEid.toNat + taken overflowChecks pingEid t (.turn :: discovery) ∧
      ∃ more, ranges s.history = ranges t.history ++ more ∧ more ≠ [] := by
  rcases exists_last_turn es with hturn | ⟨before, discovery, rfl, hturn⟩
  · rw [phase_of_turn_notMem h hturn] at hsetting
    cases hsetting
  · obtain ⟨t, hbefore, hafter⟩ := h.of_append
    have hsegment := segment_run (segment_run ⟨0, .init ctx⟩ hbefore).allocated hafter
    obtain ⟨more, hranges, hmore⟩ := hsegment.ranges_eq
    have htop : t.phase = .top := by
      obtain ⟨t', hfirst, -⟩ := (List.singleton_append ▸ hafter : Run _ _ t
        ([Event.turn] ++ discovery) s).of_append
      obtain ⟨t₀, ht₀, hstep, -⟩ := Run.snoc_iff.mp (List.nil_append [Event.turn] ▸ hfirst)
      obtain rfl := ht₀.state_unique (.nil : Run _ (fun _ _ => True) t [] t)
      exact phase_of_turn hstep
    refine ⟨before, discovery, t, rfl, hturn, hbefore.mono fun _ _ _ => trivial,
      hafter.mono fun _ _ _ => trivial, hsegment.nextEid_eq, more, hranges,
      (hmore hsetting).resolve_left ?_⟩
    rw [htop]
    exact Bool.false_ne_true

end Segments

/-! ### Runs inside of the pool -/

section Run

variable {ctx : MctpEndpointContext} {pingEid : UInt8} {s s' : State} {e : Event}
  {overflowChecks : Bool} {es : List Event}

/-- A step whose EIDs fit does not overflow. -/
theorem not_overflows_of_fits (h : Fits ctx s e) : ¬ Overflows pingEid s e := by
  rw [overflows_iff, Nat.not_lt]
  by_cases hdemand : demand s e = 0
  · rw [hdemand]
    exact Nat.le_of_lt_succ s.nextEid.toNat_lt
  · exact (h hdemand).1

/-- While the EIDs of every step fit, the cursor does not move on behind the pool. -/
theorem nextEid_le_of_fits (h : Run (step overflowChecks pingEid) (Fits ctx) (init ctx) es s) :
    s.nextEid.toNat ≤ poolEnd ctx := by
  have hinit : (init ctx).nextEid.toNat ≤ poolEnd ctx := Nat.le_add_right _ _
  refine (h.invariant (I := fun s => (∃ n, Allocated ctx n s) ∧ s.nextEid.toNat ≤ poolEnd ctx)
    ⟨⟨0, .init ctx⟩, hinit⟩ ?_).2
  rintro s e s' ⟨⟨n, hs⟩, hle⟩ hfits hstep
  have hover := @not_overflows_of_fits ctx pingEid s e hfits
  rw [overflows_iff, Nat.not_lt] at hover
  refine ⟨exists_allocated_of_step ⟨n, hs⟩ hover hstep, ?_⟩
  rw [(transition_of_step overflowChecks hs.pool hover hstep).nextEid_eq]
  by_cases hdemand : demand s e = 0
  · rw [hdemand]
    exact hle
  · exact (hfits hdemand).2

theorem respectsPool_of_fits
    (h : Run (step overflowChecks pingEid) (Fits ctx) (init ctx) es s) :
    RespectsPool overflowChecks pingEid ctx es s := by
  have hover := h.mono (D := fun s e => ¬ Overflows pingEid s e) fun _ _ => not_overflows_of_fits
  obtain ⟨n, hs⟩ := (segment_run ⟨0, .init ctx⟩ hover).allocated
  refine ⟨hover, fun r hr => ?_, ?_⟩
  · obtain ⟨hmin, hmax⟩ := hs.laid.within r hr
    exact ⟨hmin, hmax.trans (nextEid_le_of_fits h)⟩
  · -- No discovery takes EIDs behind the pool.
    rintro before discovery after t t' rfl - hbefore hdiscovery hexceeds
    exfalso
    obtain ⟨u', hprefix, -⟩ := h.of_append
    obtain ⟨u, hfirst, hsecond⟩ := hprefix.of_append
    obtain rfl := hfirst.state_unique hbefore
    obtain rfl := hsecond.state_unique hdiscovery
    have hnot := hsecond.mono (D := fun s e => ¬ Overflows pingEid s e)
      fun _ _ => not_overflows_of_fits
    have hallocated := (segment_run ⟨0, .init ctx⟩
      (hfirst.mono fun _ _ => not_overflows_of_fits)).allocated
    rw [← (segment_run hallocated hnot).nextEid_eq] at hexceeds
    exact absurd (nextEid_le_of_fits hprefix) (Nat.not_le.mpr hexceeds)

/-- A run that stays inside of the pool did so before its last step. -/
theorem RespectsPool.of_concat
    (h : RespectsPool overflowChecks pingEid ctx (es ++ [e]) s') :
    ∃ s, RespectsPool overflowChecks pingEid ctx es s ∧
      step overflowChecks pingEid s e = some s' ∧ ¬ Overflows pingEid s e := by
  obtain ⟨s, hrun, hstep, hover⟩ := Run.snoc_iff.mp h.noOverflow
  have hbyte := hover
  rw [overflows_iff, Nat.not_lt] at hbyte
  refine ⟨s, ⟨hrun, fun r hr => h.inPool r ?_, ?_⟩, hstep, hover⟩
  · obtain ⟨n, hs⟩ := (segment_run ⟨0, .init ctx⟩ hrun).allocated
    rcases (transition_of_step overflowChecks hs.pool hbyte hstep).ranges_eq with
      ⟨-, hsame⟩ | ⟨-, hmore⟩
    · exact hsame ▸ hr
    · rw [hmore]
      exact List.mem_append_left _ hr
  · rintro before discovery after t t' rfl
    exact h.exceeding before discovery (after ++ [e]) t t' (List.append_assoc _ _ _)

/-- The last step of a run that stays inside of the pool takes EIDs that fit. -/
theorem RespectsPool.fits (h : RespectsPool overflowChecks pingEid ctx (es ++ [e]) s')
    (hrun : Run (step overflowChecks pingEid) (fun s e => ¬ Overflows pingEid s e) (init ctx) es s)
    (hstep : step overflowChecks pingEid s e = some s') (hover : ¬ Overflows pingEid s e) :
    Fits ctx s e := by
  intro hdemand
  rw [overflows_iff, Nat.not_lt] at hover
  refine ⟨hover, Nat.le_of_not_lt fun hexceeds => ?_⟩
  obtain ⟨n, hs⟩ := (segment_run ⟨0, .init ctx⟩ hrun).allocated
  have htransition := transition_of_step overflowChecks hs.pool hover hstep
  by_cases hsetting : s.phase.isSettingEid = true
  · -- The discovery has assigned an EID, and now takes a pool that does not fit.
    obtain ⟨before, discovery, t, rfl, hturn, hbefore, hdiscovery, hnext, more, hranges, hmore⟩ :=
      exists_discovery hrun hsetting
    have hne : e ≠ .turn := by
      rintro rfl
      exact hdemand rfl
    have hlonger : Run (step overflowChecks pingEid) (fun _ _ => True) t
        (.turn :: (discovery ++ [e])) s' := hdiscovery.snoc hstep trivial
    have hsame : ranges s'.history = ranges t.history := by
      refine h.exceeding before (discovery ++ [e]) [] t s' ?_ ?_ hbefore hlonger ?_
      · rw [List.append_nil, List.append_assoc, List.cons_append]
      · rw [List.mem_append, List.mem_singleton]
        exact fun hmem => hmem.elim hturn fun heq => hne heq.symm
      · have htaken : taken overflowChecks pingEid t (.turn :: (discovery ++ [e])) =
            taken overflowChecks pingEid t (.turn :: discovery) + demand s e := by
          rw [taken, taken, ← List.cons_append, hdiscovery.trace_snoc, List.sum_append,
            List.sum_singleton]
        omega
    have hlen := congrArg List.length hsame
    have hpos := List.length_pos_iff.mpr hmore
    rcases htransition.ranges_eq with ⟨-, heq⟩ | ⟨-, heq⟩ <;>
    · rw [heq, hranges] at hlen
      simp only [List.length_append] at hlen
      omega
  · -- The EID that does not fit is assigned.
    have hout : HandsOut s e := ⟨hdemand, fun hset => hsetting hset.1⟩
    rcases htransition.ranges_eq with ⟨hnot, -⟩ | ⟨-, hmore⟩
    · exact hnot hout
    · have hbound := h.inPool (s.nextEid.toNat, s.nextEid.toNat + demand s e)
        (hmore ▸ List.mem_append_right _ (List.mem_singleton_self _))
      exact absurd hbound.2 (Nat.not_le.mpr hexceeds)

theorem fits_of_respectsPool (h : RespectsPool overflowChecks pingEid ctx es s) :
    Run (step overflowChecks pingEid) (Fits ctx) (init ctx) es s := by
  induction es using List.reverseRecOn generalizing s with
  | nil =>
    obtain rfl := h.noOverflow.state_unique (.nil : Run _ (fun _ _ => True) (init ctx) [] _)
    exact .nil
  | append_singleton es e ih =>
    obtain ⟨t, ht, hstep, hover⟩ := h.of_concat
    exact (ih ht).snoc hstep (h.fits ht.noOverflow hstep hover)

end Run

/-- A run stays inside of the pool exactly when the EIDs that each of its steps takes fit. -/
theorem respectsPool_iff_fits (overflowChecks : Bool) (pingEid : UInt8)
    (ctx : MctpEndpointContext) (es : List Event) (s : State) :
    RespectsPool overflowChecks pingEid ctx es s ↔
      Run (step overflowChecks pingEid) (Fits ctx) (init ctx) es s :=
  ⟨fits_of_respectsPool, respectsPool_of_fits⟩

/-- The bridge is asked for its EID. -/
def sampleIdentifying : State :=
  ⟨⟨0x00, false, 0x80, 32, 2, 2⟩, 0x80, .gettingEid,
    [.request [0x01, 0x00, 0x00, 0xC9, 0x00, 0x81, 0x02]]⟩

/-- The bridge has been assigned an EID. -/
def sampleAssigning : State :=
  ⟨⟨0x00, false, 0x80, 32, 3, 3⟩, 0x81,
    .settingEid ⟨0, .busOwnerOrBridge, .dynamic, .noPoolSupport, 0, 0, 0⟩,
    [.request [0x01, 0x00, 0x00, 0xC9, 0x00, 0x81, 0x02], .response sampleBridge,
      .request [0x01, 0x00, 0x00, 0xCA, 0x00, 0x82, 0x01, 0x00, 0x80]]⟩

/-- The discovery runs through these two states, whatever the bridge asks for. -/
theorem run_sampleDiscovery {C : State → Event → Prop} {eidPoolSize : UInt8} {s : State}
    (hturn : C (init sampleContext) .turn)
    (hidentified : C sampleIdentifying (.deliver (.response sampleBridge)))
    (haccepted : C sampleAssigning (.deliver (.response (sampleAcceptance eidPoolSize))))
    (h : step true 0 sampleAssigning (.deliver (.response (sampleAcceptance eidPoolSize))) =
      some s) :
    Run (step true 0) C (init sampleContext) (sampleDiscovery eidPoolSize) s := by
  have hfirst : step true 0 (init sampleContext) .turn = some sampleIdentifying := rfl
  have hsecond : step true 0 sampleIdentifying (.deliver (.response sampleBridge)) =
      some sampleAssigning := rfl
  exact .cons hfirst hturn (.cons hsecond hidentified (.cons h haccepted .nil))

/-- A bridge that asks for four EIDs of a pool of 32 stays inside of it. -/
theorem respectsPool_iff_fits_sampleDiscovery :
    Run (step true 0) (Fits sampleContext) (init sampleContext) (sampleDiscovery 4)
      (sampleDiscovered 4 0x85) ∧
    RespectsPool true 0 sampleContext (sampleDiscovery 4) (sampleDiscovered 4 0x85) := by
  have hone : demand sampleIdentifying (.deliver (.response sampleBridge)) = 1 := rfl
  have hfour : demand sampleAssigning (.deliver (.response (sampleAcceptance 4))) = 4 := rfl
  have hfits : Run (step true 0) (Fits sampleContext) (init sampleContext)
      (sampleDiscovery 4) (sampleDiscovered 4 0x85) := by
    refine run_sampleDiscovery (fun hdemand => absurd rfl hdemand) (fun _ => ?_) (fun _ => ?_) rfl
    · rw [hone]
      decide
    · rw [hfour]
      decide
  exact ⟨hfits, (respectsPool_iff_fits true 0 sampleContext _ _).mpr hfits⟩

/-- The state after a discovery whose pool overflows. -/
def sampleOverflowed : State :=
  ⟨⟨0x00, false, 0x80, 32, 3, 3⟩, 0x81, .overflowed,
    [.request [0x01, 0x00, 0x00, 0xC9, 0x00, 0x81, 0x02], .response sampleBridge,
      .request [0x01, 0x00, 0x00, 0xCA, 0x00, 0x82, 0x01, 0x00, 0x80],
      .response (sampleAcceptance 200)]⟩

/-- A context whose pool has a single EID. -/
def sampleSingle : MctpEndpointContext := ⟨0x00, true, 0x80, 1, 1, 1⟩

/-- The state after the discovery of a bridge that asks for one more EID. -/
def sampleSingleReserved : State :=
  ⟨⟨0x00, false, 0x80, 1, 3, 3⟩, 0x82, .top,
    [.request [0x01, 0x00, 0x00, 0xC9, 0x00, 0x81, 0x02], .response sampleBridge,
      .request [0x01, 0x00, 0x00, 0xCA, 0x00, 0x82, 0x01, 0x00, 0x80],
      .response (sampleAcceptance 1)]⟩

/-- A bridge that asks for 100 EIDs of a pool of 32 gets them, one that asks for 200 makes the loop
panic, and one that takes two EIDs of a pool of one is assigned the first. -/
theorem not_respectsPool_sampleDiscovery :
    sampleContext.minEidInPool.toNat + sampleContext.eidPoolSize.toNat ≤ 255 ∧
    (Run (step true 0) (fun _ _ => True) (init sampleContext) (sampleDiscovery 100)
        (sampleDiscovered 100 0xE5) ∧
      ranges (sampleDiscovered 100 0xE5).history = [(0x80, 0x81), (0x81, 0xE5)] ∧
      ¬ RespectsPool true 0 sampleContext (sampleDiscovery 100) (sampleDiscovered 100 0xE5)) ∧
    (Run (step true 0) (fun _ _ => True) (init sampleContext) (sampleDiscovery 200)
        sampleOverflowed ∧
      sampleOverflowed.phase = .overflowed) ∧
    Run (step true 0) (fun _ _ => True) (init sampleSingle) (sampleDiscovery 1)
        sampleSingleReserved ∧
      ranges sampleSingleReserved.history = [(0x80, 0x81)] ∧
      ¬ RespectsPool true 0 sampleSingle (sampleDiscovery 1) sampleSingleReserved := by
  have hsingle : Run (step true 0) (fun _ _ => True) (init sampleSingle) (sampleDiscovery 1)
      sampleSingleReserved := .of_foldlM_eq rfl
  refine ⟨by decide, ⟨.of_foldlM_eq rfl, rfl, fun h => ?_⟩, ⟨.of_foldlM_eq rfl, rfl⟩, hsingle,
    rfl, fun h => ?_⟩
  · have hbounds := h.inPool (0x81, 0xE5) (.tail _ (.head _))
    exact absurd hbounds.2 (by decide)
  · -- The discovery takes the EIDs `0x80` and `0x81`, and the pool ends at `0x81`.
    have hnone := h.exceeding [] _ [] _ _ rfl (by simp) .nil hsingle (by decide +kernel)
    cases hnone

end BusOwner

end MctpEmu
