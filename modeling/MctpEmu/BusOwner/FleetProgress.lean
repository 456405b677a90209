import MctpEmu.BusOwner.Fleet
import MctpEmu.Library.Potential

/-!
# A raised flag leads to an EID

While the flag of a notification is raised, the loop and its endpoints take at most five steps to
the next EID that is accepted, whatever else happens, and they can always take the next of these
steps. When the flag is raised during a discovery, this is the EID of the discovery itself.

## Main definitions

* `BusOwner.Fleet.Discovers`: the loop is on its way to an EID.
* `BusOwner.Fleet.distance`: how many of its steps are left before the last one.

## Main results

* `BusOwner.Fleet.nears_of_step`: a step comes nearer, or the EID is accepted.
* `BusOwner.Fleet.discovers_within`: five steps are enough.
-/

namespace MctpEmu

namespace BusOwner

namespace Fleet

/-- A step of the loop, or the answer to its request. -/
def Event.isLoop : Event → Bool
  | .turn | .wake | .answer _ _ => true
  | .handleRequest _ | .attach _ => false

/-- The loop discovers an endpoint, or it rests and the flag is raised. -/
def Discovers (s : State) : Prop :=
  s.phase = .gettingEid ∨ s.phase = .settingEid simpleEndpoint ∨
    (s.phase = .top ∨ s.phase = .sleeping ∨ s.phase = .pinging) ∧ s.ctx.performDiscovery = true

/-- The steps of the loop before the one with which an EID is accepted. -/
def distance : Phase → ℕ
  | .sleeping => 4
  | .pinging => 3
  | .top => 2
  | .gettingEid => 1
  | _ => 0

/-- The loop has come to the last EID, or more than `n` EIDs have been accepted. -/
def Accepted (n : ℕ) (f : Fleet) : Prop := f.owner.phase = .overflowed ∨ n < f.assigned.length

section Steps

variable {overflowChecks : Bool} {pingEid start : UInt8} {f f' : Fleet} {e : Event}

/-- The flag stays raised until the loop turns. -/
theorem performDiscovery_of_step {s s' : State} {e : BusOwner.Event} (he : e ≠ .turn)
    (hflag : s.ctx.performDiscovery = true)
    (h : BusOwner.step overflowChecks pingEid s e = some s') :
    s'.ctx.performDiscovery = true := by
  rcases discoveries_of_step h with ⟨rfl, -⟩ | ⟨-, hkeep, -⟩
  · exact absurd rfl he
  · rw [hkeep, hflag, Bool.true_or]

/-- A loop that rests on its way has its flag raised. -/
theorem Discovers.performDiscovery {s : State} (hd : Discovers s)
    (hrest : s.phase = .top ∨ s.phase = .sleeping ∨ s.phase = .pinging) :
    s.ctx.performDiscovery = true := by
  rcases hd with hget | hset | ⟨-, hflag⟩
  · rw [hget] at hrest
    simp at hrest
  · rw [hset] at hrest
    simp at hrest
  · exact hflag

/-- A loop that is on its way comes nearer with each of its steps, until an EID is accepted. -/
theorem nears_of_step {n : ℕ} (hf : Sound overflowChecks start f) (hn : n ≤ f.assigned.length)
    (hd : Discovers f.owner) (h : step overflowChecks pingEid f e = some f') :
    Accepted n f' ∨ (Discovers f'.owner ∧ n ≤ f'.assigned.length) ∧
      e.isLoop.toNat + distance f'.owner.phase ≤ distance f.owner.phase := by
  cases e with
  | turn =>
    obtain ⟨owner, hturn, rfl⟩ := Option.map_eq_some_iff.mp h
    obtain ⟨hphase, howner⟩ := goesOn_of_turn hturn
    rw [if_pos (hd.performDiscovery (.inl hphase))] at howner
    subst howner
    refine .inr ⟨⟨.inl rfl, hn⟩, ?_⟩
    rw [hphase]
    exact le_rfl
  | wake =>
    obtain ⟨owner, hwake, rfl⟩ := Option.map_eq_some_iff.mp h
    obtain ⟨hphase, howner⟩ := goesOn_of_wake hwake
    have hflag := hd.performDiscovery (.inr (.inl hphase))
    have hkept := performDiscovery_of_step BusOwner.Event.noConfusion hflag hwake
    have hrest : owner.phase = .top ∨ owner.phase = .sleeping ∨ owner.phase = .pinging := by
      split_ifs at howner
      · exact .inr (.inr (howner ▸ rfl))
      · exact .inl (howner ▸ rfl)
    refine .inr ⟨⟨.inr (.inr ⟨hrest, hkept⟩), hn⟩, ?_⟩
    rw [hphase]
    split_ifs at howner
    · subst howner
      exact le_rfl
    · subst howner
      exact Nat.le_succ 3
  | handleRequest bytes =>
    obtain ⟨owner, hhandle, hphase, rfl⟩ : ∃ owner, BusOwner.step overflowChecks pingEid f.owner
        (.handleRequest bytes) = some owner ∧ owner.phase = f.owner.phase ∧
        f' = { f with owner } := ⟨_, rfl, rfl, (Option.some.inj h).symm⟩
    refine .inr ⟨⟨?_, hn⟩, ?_⟩
    · rcases hd with hget | hset | ⟨hrest, hflag⟩
      · exact .inl (hphase.trans hget)
      · exact .inr (.inl (hphase.trans hset))
      · have hkept := performDiscovery_of_step BusOwner.Event.noConfusion hflag hhandle
        exact .inr (.inr ⟨hphase ▸ hrest, hkept⟩)
    · change 0 + distance owner.phase ≤ distance f.owner.phase
      rw [hphase, Nat.zero_add]
  | answer requestPec pec =>
    cases answered_of_answer hf.phase h with
    | overflow => exact .inl (.inl rfl)
    | assign hphase =>
      refine .inr ⟨⟨.inr (.inl rfl), hn⟩, ?_⟩
      rw [hphase]
      exact le_rfl
    | pinged hphase =>
      have hflag := hd.performDiscovery (.inr (.inr hphase))
      refine .inr ⟨⟨.inr (.inr ⟨.inl rfl, hflag⟩), hn⟩, ?_⟩
      rw [hphase]
      exact le_rfl
    | accept =>
      refine .inl (.inr ?_)
      rw [List.length_append]
      exact Nat.lt_succ_of_le hn
  | attach endpoint =>
    obtain rfl := Option.some.inj h
    exact .inr ⟨⟨hd, hn⟩, Nat.le_of_eq (Nat.zero_add _)⟩

/-- The last EID stays the last one, and what was accepted stays accepted. -/
theorem Accepted.step {n : ℕ} (hf : Sound overflowChecks start f) (ha : Accepted n f)
    (h : Fleet.step overflowChecks pingEid f e = some f') : Accepted n f' := by
  cases e with
  | turn =>
    obtain ⟨owner, hturn, rfl⟩ := Option.map_eq_some_iff.mp h
    have hphase := (goesOn_of_turn hturn).1
    rcases ha with hover | hlt
    · cases hphase.symm.trans hover
    · exact .inr hlt
  | wake =>
    obtain ⟨owner, hwake, rfl⟩ := Option.map_eq_some_iff.mp h
    have hphase := (goesOn_of_wake hwake).1
    rcases ha with hover | hlt
    · cases hphase.symm.trans hover
    · exact .inr hlt
  | handleRequest bytes =>
    obtain rfl := Option.some.inj h
    exact ha
  | answer requestPec pec =>
    rcases ha with hover | hlt
    · cases answered_of_answer hf.phase h with
      | overflow hphase | assign hphase | pinged hphase | accept hphase =>
        cases hphase.symm.trans hover
    · refine .inr ?_
      cases answered_of_answer hf.phase h with
      | overflow | assign | pinged => exact hlt
      | accept =>
        rw [List.length_append]
        exact Nat.lt_add_right _ hlt
  | attach endpoint =>
    obtain rfl := Option.some.inj h
    exact ha

/-- Unless it has come to the last EID, the loop can go on. -/
theorem exists_isLoop (hf : Sound overflowChecks start f) :
    f.owner.phase = .overflowed ∨
      ∃ e f', e.isLoop = true ∧ Fleet.step overflowChecks pingEid f e = some f' := by
  have hanswer (hawaits : f.owner.phase.awaits = true) :
      ∃ e f', e.isLoop = true ∧ Fleet.step overflowChecks pingEid f e = some f' := by
    obtain ⟨f', hf'⟩ := hf.exists_answer hawaits 0 0
    exact ⟨_, f', rfl, hf'⟩
  cases hf.phase with
  | rests hphase =>
    rcases hphase with hphase | hphase
    · refine .inr ⟨.turn, ?_⟩
      simp only [Fleet.step, BusOwner.step, hphase]
      split_ifs <;> exact ⟨_, rfl, rfl⟩
    · refine .inr ⟨.wake, ?_⟩
      simp only [Fleet.step, BusOwner.step, hphase]
      split_ifs <;> exact ⟨_, rfl, rfl⟩
  | asks hphase =>
    rcases hphase with hphase | hphase
    · exact .inr (hanswer (by rw [hphase]; rfl))
    · exact .inr (hanswer (by rw [hphase]; rfl))
  | assigns hphase => exact .inr (hanswer (by rw [hphase]; rfl))
  | overflows hphase => exact .inl hphase

/-- A raised flag is on its way to an EID, or the loop has come to the last one. -/
theorem Discovers.of_performDiscovery (hf : Sound overflowChecks start f)
    (hflag : f.owner.ctx.performDiscovery = true) :
    f.owner.phase = .overflowed ∨ Discovers f.owner := by
  cases hf.phase with
  | rests hphase => exact .inr (.inr (.inr ⟨hphase.elim .inl (.inr ∘ .inl), hflag⟩))
  | asks hphase =>
    rcases hphase with hphase | hphase
    · exact .inr (.inl hphase)
    · exact .inr (.inr (.inr ⟨.inr (.inr hphase), hflag⟩))
  | assigns hphase => exact .inr (.inr (.inl hphase))
  | overflows hphase => exact .inl hphase

theorem distance_le (phase : Phase) : distance phase ≤ 4 := by
  cases phase <;> exact Nat.le_of_ble_eq_true rfl

end Steps

/-- From a raised flag on, five steps of the loop are enough for the next EID to be accepted,
whatever else happens in between, unless the loop comes to the last EID; and until then it can
always take one of its steps. -/
theorem discovers_within (overflowChecks : Bool) (pingEid : UInt8)
    (ctx attached : MctpEndpointContext) (es : List Event) (f : Fleet)
    (h : StepSystem.Run (step overflowChecks pingEid) (fun _ _ => True) (init ctx attached) es f) :
    (f.owner.phase = .overflowed ∨
      ∃ e f', e.isLoop = true ∧ step overflowChecks pingEid f e = some f') ∧
    (f.owner.ctx.performDiscovery = true → ∀ es' f',
      StepSystem.Run (step overflowChecks pingEid) (fun _ _ => True) f es' f' →
      5 ≤ es'.countP Event.isLoop →
        f'.owner.phase = .overflowed ∨ f.assigned.length < f'.assigned.length) := by
  have hf := sound_run h
  refine ⟨exists_isLoop hf, fun hflag es' f' h' hfive => ?_⟩
  have hkeep : ∀ g e g', Sound overflowChecks ctx.minEidInPool g ∧ Accepted f.assigned.length g →
      True → step overflowChecks pingEid g e = some g' →
      Sound overflowChecks ctx.minEidInPool g' ∧ Accepted f.assigned.length g' :=
    fun _ _ _ hg _ hstep => ⟨hg.1.step hstep, hg.2.step hg.1 hstep⟩
  rcases Discovers.of_performDiscovery hf hflag with hover | hdiscovers
  · exact (h'.invariant ⟨hf, .inl hover⟩ hkeep).2
  · refine (h'.reaches (fun g => distance g.owner.phase) (fun e => e.isLoop.toNat)
      (W := fun g => Sound overflowChecks ctx.minEidInPool g ∧ Discovers g.owner ∧
        f.assigned.length ≤ g.assigned.length) ⟨hf, hdiscovers, le_rfl⟩ hkeep ?_ ?_).2
    · rintro g e g' ⟨hg, hd, hn⟩ - hstep
      rcases nears_of_step hg hn hd hstep with haccepted | ⟨hwaits, hle⟩
      · exact .inl ⟨hg.step hstep, haccepted⟩
      · exact .inr ⟨⟨hg.step hstep, hwaits⟩, hle⟩
    · rw [StepSystem.sum_toNat]
      exact (Nat.lt_succ_of_le (distance_le _)).trans_le hfive

/-- A bus owner that was notified while it sleeps. -/
def sampleNotified : Fleet :=
  ⟨⟨⟨0x00, true, 0x80, 32, 1, 1⟩, 0x80, .sleeping, []⟩, [], ⟨0x00, false, 0x80, 32, 1, 1⟩, []⟩

/-- It wakes, turns, and has the EID accepted with the fourth step. -/
theorem discovers_within_sampleNotified : ∃ f,
    StepSystem.Run (step true 0) (fun _ _ => True) sampleNotified
      [.wake, .turn, .answer 0 0, .answer 0 0, .turn] f ∧
    0 < f.assigned.length := by
  have hstart : StepSystem.Run (step true 0) (fun _ _ => True)
      (init ⟨0x00, false, 0x80, 32, 1, 1⟩ ⟨0x00, false, 0x80, 32, 1, 1⟩)
      [.turn, .handleRequest [0x01, 0x00, 0x00, 0xC8, 0x00, 0x81, 0x0D]] sampleNotified :=
    StepSystem.Run.of_foldlM_eq (by decide +kernel)
  have hend : (([.wake, .turn, .answer 0 0, .answer 0 0, .turn] : List Event).foldlM (step true 0)
      sampleNotified).map (fun f => f.owner.phase) = some .sleeping := by
    decide +kernel
  obtain ⟨f, hf, hphase⟩ := Option.map_eq_some_iff.mp hend
  have hrun := StepSystem.Run.of_foldlM_eq hf
  refine ⟨f, hrun, ?_⟩
  refine ((discovers_within true 0 _ _ _ _ hstart).2 rfl _ f hrun (by decide)).resolve_left ?_
  rw [hphase]
  exact Phase.noConfusion

end Fleet

end BusOwner

end MctpEmu
