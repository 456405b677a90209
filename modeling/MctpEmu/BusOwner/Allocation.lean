import MctpEmu.BusOwner.Loop

/-!
# The EIDs of a bus owner

The loop hands out EIDs with a cursor that never goes back: `next_eid` moves on by one for each
dynamic endpoint and by the size of the pool for each bridge. As long as the EIDs fit into a byte,
what the packets of a run carry is therefore disjoint.

## Main definitions

* `BusOwner.taken`: the number of EIDs that a run has taken.
* `BusOwner.Offered`: a pool is offered right after the EID of its bridge.
* `BusOwner.Allocated`: the invariant of the cursor and the history.

## Main results

* `BusOwner.Allocated.step`, `BusOwner.allocated_run`: the invariant holds while the EIDs fit.
* `BusOwner.allocations_disjoint`: the EIDs that the packets of a run carry.
-/

namespace MctpEmu

namespace BusOwner

/-- The number of EIDs that a run has taken. -/
def taken (overflowChecks : Bool) (pingEid : UInt8) (s : State) (es : List Event) : ℕ :=
  (StepSystem.trace (step overflowChecks pingEid) (fun s e => [demand s e]) s es).sum

/-- A range of EIDs is offered right after a response to the assignment of the EID below it, and it
has the size that this response reports. -/
def Offered (before : List Message) (m : Message) : Prop :=
  ∀ bytes req, m = .request bytes →
    readRequest AllocateEids.Request .allocateEndpointIDs bytes = some req →
    ∃ earlier setBytes setReq respBytes payload resp,
      before = earlier ++ [.request setBytes, .response respBytes] ∧
      readRequest SetEid.Request .setEndpointID setBytes = some setReq ∧
      ControlPayload.tryToResponse SetEid.Response respBytes = .ok (payload, resp) ∧
      req.startingEid.toNat = setReq.eid.toNat + 1 ∧ req.numberOfEids = resp.eidPoolSize

theorem offered_response (before : List Message) (bytes : Bytes) :
    Offered before (.response bytes) :=
  nofun

/-- A message without EIDs needs no assignment before it. -/
theorem offered_of_range_eq_none {m : Message} (h : m.range = none) (before : List Message) :
    Offered before m := by
  rintro bytes req rfl hread
  rw [Message.range, hread] at h
  cases hset : readRequest SetEid.Request .setEndpointID bytes with
  | none =>
    rw [hset] at h
    cases h
  | some setReq =>
    rw [hset] at h
    cases h

theorem offered_sendSetEidRequest (before : List Message) (ctx : MctpEndpointContext)
    (eid : UInt8) : Offered before (.request (ctx.sendSetEidRequest eid).1) := by
  intro bytes req hbytes hread
  obtain rfl := Message.request.inj hbytes
  rw [ctx.readRequest_allocateEids_sendSetEidRequest] at hread
  cases hread

/-! ### The invariant -/

/-- After `n` EIDs have been taken: the cursor stands behind them, the ranges of the history lie
below it one after another, and a response that is awaited answers the assignment of the EID
just below the cursor. -/
structure Allocated (ctx : MctpEndpointContext) (n : ℕ) (s : State) : Prop where
  next : s.nextEid.toNat = ctx.minEidInPool.toNat + n
  laid : Ledger.Laid ctx.minEidInPool.toNat (ranges s.history) s.nextEid.toNat
  offered : Ledger.Justified Offered s.history
  pool : ∀ endpoint, s.phase = .settingEid endpoint →
    endpoint.minDynamicEid = 0 ∧ endpoint.maxDynamicEid = 0
  pending : s.phase.isSettingEid = true → ∃ earlier bytes req,
    s.history = earlier ++ [.request bytes] ∧
    readRequest SetEid.Request .setEndpointID bytes = some req ∧
    req.eid.toNat + 1 = s.nextEid.toNat

namespace Allocated

variable {ctx : MctpEndpointContext} {n : ℕ} {s s' : State}

theorem init (ctx : MctpEndpointContext) : Allocated ctx 0 (BusOwner.init ctx) where
  next := rfl
  laid := .nil
  offered := .nil
  pool := nofun
  pending := nofun

/-- A step moves the cursor on by the EIDs that it takes. -/
theorem step (hs : Allocated ctx n s) {e : Event} (h : Transition s e s') :
    Allocated ctx (n + demand s e) s' := by
  have hnext : s'.nextEid.toNat = ctx.minEidInPool.toNat + (n + demand s e) := by
    rw [h.nextEid_eq, hs.next, Nat.add_assoc]
  have hlaid : Ledger.Laid ctx.minEidInPool.toNat (ranges s'.history) s'.nextEid.toNat := by
    have hle : s.nextEid.toNat ≤ s'.nextEid.toNat := h.nextEid_eq ▸ Nat.le_add_right _ _
    rcases h.ranges_eq with ⟨-, hsame⟩ | ⟨-, hmore⟩
    · rw [hsame]
      exact hs.laid.skip hle
    · rw [hmore, ← h.nextEid_eq]
      exact hs.laid.alloc hle
  -- Only an assignment leaves a response to be awaited.
  have hquiet : s'.phase.isSettingEid = false → Ledger.Justified Offered s'.history →
      Allocated ctx (n + demand s e) s' := by
    intro hphase hoffered
    refine ⟨hnext, hlaid, hoffered, fun endpoint hset => ?_, fun hset => ?_⟩
    · rw [hset] at hphase
      cases hphase
    · rw [hset] at hphase
      cases hphase
  cases h with
  | respond hdemand hnext' hphase hhistory =>
    refine ⟨hnext, hlaid, ?_, ?_, ?_⟩
    · rw [hhistory]
      exact hs.offered
    · rw [hphase]
      exact hs.pool
    · rw [hphase, hhistory, hnext']
      exact hs.pending
  | other hdemand hnext' hphase hhistory hnews =>
    refine hquiet hphase ?_
    rw [hhistory]
    exact hs.offered.append fun m hm before => offered_of_range_eq_none (hnews m hm) before
  | assign hdemand hfits hphase bytes endpoint hnext' hphase' hzero ctx' hhistory =>
    refine ⟨hnext, hlaid, ?_, fun endpoint' hset => ?_, fun _ => ?_⟩
    · rw [hhistory]
      exact hs.offered.snoc₂ (offered_response _ _) (offered_sendSetEidRequest _ _ _)
    · obtain rfl := Phase.settingEid.inj (hphase'.symm.trans hset)
      exact hzero
    · obtain ⟨req, hread, heid⟩ := ctx'.readRequest_sendSetEidRequest s.nextEid
      refine ⟨s.history ++ [.response bytes], _, req, ?_, hread, ?_⟩
      · rw [hhistory, List.append_assoc, List.singleton_append]
      · rw [heid, hnext']
  | @reserve endpoint hphase bytes payload resp hresp hpos hdemand hfits hnext' hphase' ctx'
      hhistory =>
    refine hquiet hphase' ?_
    rw [hhistory]
    by_cases hone : resp.eidPoolSize = 1
    · rw [if_pos hone]
      exact hs.offered.snoc (offered_response _ _)
    · rw [if_neg hone]
      refine hs.offered.snoc₂ (offered_response _ _) ?_
      intro bytes' req hbytes hread
      obtain rfl := Message.request.inj hbytes
      obtain ⟨-, req', hread', hstart, hnumber⟩ :=
        ctx'.readRequest_sendAllocateEidsRequest s.nextEid resp.eidPoolSize
      obtain rfl := Option.some.inj (hread'.symm.trans hread)
      obtain ⟨earlier, setBytes, setReq, hlast, hset, heid⟩ := hs.pending (by rw [hphase]; rfl)
      refine ⟨earlier, setBytes, setReq, bytes, payload, resp, ?_, hset, hresp, ?_, hnumber⟩
      · rw [hlast, List.append_assoc, List.singleton_append]
      · rw [hstart, heid]

end Allocated

section Run

variable {overflowChecks : Bool} {pingEid : UInt8} {C : State → Event → Prop}
  {ctx : MctpEndpointContext} {es : List Event} {s : State}

/-- A run takes what its last step takes on top of what it has taken before. -/
theorem taken_snoc (h : StepSystem.Run (step overflowChecks pingEid) C (init ctx) es s)
    (e : Event) : taken overflowChecks pingEid (init ctx) (es ++ [e]) =
      taken overflowChecks pingEid (init ctx) es + demand s e := by
  rw [taken, h.trace_snoc, List.sum_append, List.sum_singleton, ← taken]

/-- The invariant holds as long as the EIDs of the run fit into a byte. -/
theorem allocated_run (h : StepSystem.Run (step overflowChecks pingEid) C (init ctx) es s)
    (hfits : ctx.minEidInPool.toNat + taken overflowChecks pingEid (init ctx) es ≤ 255) :
    Allocated ctx (taken overflowChecks pingEid (init ctx) es) s := by
  induction h with
  | nil => exact .init ctx
  | @snoc es s s' e hrun hstep hcond ih =>
    rw [taken_snoc hrun] at hfits ⊢
    have hs := ih (by omega)
    refine hs.step (transition_of_step overflowChecks hs.pool ?_ hstep)
    rw [hs.next, Nat.add_assoc]
    exact hfits

end Run

/-- In every run whose EIDs fit into a byte, the EIDs that the packets of the loop assign and the
ranges that they offer are pairwise disjoint; every range is offered right after a response to the
assignment of the EID below it and has the size that this response reports; and the next EID is
above all of them. -/
theorem allocations_disjoint (overflowChecks : Bool) (pingEid : UInt8)
    (ctx : MctpEndpointContext) (es : List Event) (s : State)
    (h : StepSystem.Run (step overflowChecks pingEid) (fun _ _ => True) (init ctx) es s)
    (hfits : ctx.minEidInPool.toNat + taken overflowChecks pingEid (init ctx) es ≤ 255) :
    (ranges s.history).Pairwise
      (fun r r' => Disjoint (Set.Ico r.1 r.2) (Set.Ico r'.1 r'.2)) ∧
    (∀ before m after, s.history = before ++ m :: after → Offered before m) ∧
    ∀ r ∈ ranges s.history, ∀ eid ∈ Set.Ico r.1 r.2, eid < s.nextEid.toNat := by
  have hs := allocated_run h hfits
  refine ⟨hs.laid.pairwise_disjoint, fun before m after hsplit => hs.offered.of_split hsplit,
    fun r hr eid heid => ?_⟩
  exact heid.2.trans_le (hs.laid.within r hr).2

/-- A context whose pool starts at `0x80`, with a discovery requested. -/
def sampleContext : MctpEndpointContext := ⟨0x00, true, 0x80, 32, 1, 1⟩

/-- A dynamic bridge describes itself. -/
def sampleBridge : Bytes := [0x01, 0x00, 0x0A, 0xC1, 0x00, 0x01, 0x02, 0x00, 0x00, 0x10, 0x00]

/-- It accepts its EID and asks for a pool. -/
def sampleAcceptance (eidPoolSize : UInt8) : Bytes :=
  [0x01, 0x00, 0x0A, 0xC2, 0x00, 0x02, 0x01, 0x00, 0x01, 0x80, eidPoolSize]

/-- A discovery of a bridge that asks for a pool. -/
def sampleDiscovery (eidPoolSize : UInt8) : List Event :=
  [.turn, .deliver (.response sampleBridge), .deliver (.response (sampleAcceptance eidPoolSize))]

/-- The state after a discovery whose pool fits. -/
def sampleDiscovered (eidPoolSize nextEid : UInt8) : State :=
  ⟨⟨0x00, false, 0x80, 32, 4, 4⟩, nextEid, .allocatingEids,
    [.request [0x01, 0x00, 0x00, 0xC9, 0x00, 0x81, 0x02], .response sampleBridge,
      .request [0x01, 0x00, 0x00, 0xCA, 0x00, 0x82, 0x01, 0x00, 0x80],
      .response (sampleAcceptance eidPoolSize),
      .request [0x01, 0x00, 0x00, 0xCB, 0x00, 0x83, 0x08, 0x00, eidPoolSize, 0x81]]⟩

/-- A bridge gets the EID `0x80` and the pool of four EIDs behind it. -/
theorem allocations_disjoint_sampleDiscovery :
    StepSystem.Run (step true 0) (fun _ _ => True) (init sampleContext) (sampleDiscovery 4)
      (sampleDiscovered 4 0x85) ∧
    ranges (sampleDiscovered 4 0x85).history = [(0x80, 0x81), (0x81, 0x85)] ∧
    (ranges (sampleDiscovered 4 0x85).history).Pairwise
      (fun r r' => Disjoint (Set.Ico r.1 r.2) (Set.Ico r'.1 r'.2)) := by
  have hrun : StepSystem.Run (step true 0) (fun _ _ => True) (init sampleContext)
      (sampleDiscovery 4) (sampleDiscovered 4 0x85) := .of_foldlM_eq rfl
  have htaken : taken true 0 (init sampleContext) (sampleDiscovery 4) = 5 := rfl
  refine ⟨hrun, rfl, (allocations_disjoint true 0 sampleContext _ _ hrun ?_).1⟩
  rw [htaken]
  decide

end BusOwner

end MctpEmu
