import Mathlib.Data.List.Induction
import Mathlib.Tactic.Common

/-!
# Runs of partial step functions

A system takes an event in a state to the next state, or refuses the event. A *run* is a sequence
of accepted events; a condition on a state and the event about to happen singles out the runs
all of whose steps meet it.

## Main definitions

* `StepSystem.Run`: the runs whose steps all meet a condition.
* `StepSystem.trace`: the operations of another system that a run stands for.

## Main results

* `StepSystem.Run.invariant`: what holds at the start and is kept by every step holds at the end.
* `StepSystem.Run.and_iff_forall_prefix`: the runs whose states are all safe.
* `StepSystem.Run.refines`: a system whose steps do what the operations of their events do refines
  the system of these operations.
* `StepSystem.Run.simulates`: the same, where the operations may be refused.
-/

namespace StepSystem

variable {σ ε τ α : Type*} {step : σ → ε → Option σ}

variable (step) in
/-- The runs from `s₀` whose steps all meet the condition `C`. -/
inductive Run (C : σ → ε → Prop) (s₀ : σ) : List ε → σ → Prop
  | nil : Run C s₀ [] s₀
  | snoc {es : List ε} {s s' : σ} {e : ε} (hrun : Run C s₀ es s) (hstep : step s e = some s')
      (hcond : C s e) : Run C s₀ (es ++ [e]) s'

variable (step) in
/-- The operations that the events of a run stand for, each in the state in which it happens. -/
def trace (f : σ → ε → List α) : σ → List ε → List α
  | _, [] => []
  | s, e :: es => f s e ++ match step s e with
    | some s' => trace f s' es
    | none => []

theorem trace_singleton (f : σ → ε → List α) (s : σ) (e : ε) : trace step f s [e] = f s e := by
  rw [trace]
  cases step s e <;> exact List.append_nil _

namespace Run

variable {C D : σ → ε → Prop} {s₀ s : σ} {es : List ε}

/-- What holds at the start and is kept by every step that meets the condition holds in every state
that is reached. -/
theorem invariant {I : σ → Prop} (h : Run step C s₀ es s) (hinit : I s₀)
    (hstep : ∀ s e s', I s → C s e → step s e = some s' → I s') : I s := by
  induction h with
  | nil => exact hinit
  | snoc _ hs hcond ih => exact hstep _ _ _ ih hcond hs

/-- A weaker condition. -/
theorem mono (h : Run step C s₀ es s) (hcond : ∀ s e, C s e → D s e) : Run step D s₀ es s := by
  induction h with
  | nil => exact .nil
  | snoc _ hs hc ih => exact .snoc ih hs (hcond _ _ hc)

/-- A condition on the events alone. -/
theorem of_forall_mem {E : ε → Prop} (h : Run step C s₀ es s) (hE : ∀ e ∈ es, E e) :
    Run step (fun _ e => E e) s₀ es s := by
  induction h with
  | nil => exact .nil
  | @snoc es s s' e _ hs _ ih =>
    refine (ih fun e he => hE e (List.mem_append_left _ he)).snoc hs (hE e ?_)
    exact List.mem_append_right _ (List.mem_singleton_self e)

/-- A condition on the events alone holds of every event. -/
theorem forall_mem {E : ε → Prop} (h : Run step (fun _ e => E e) s₀ es s) : ∀ e ∈ es, E e := by
  induction h with
  | nil => exact fun e he => absurd he List.not_mem_nil
  | snoc _ _ hc ih =>
    intro e he
    rcases List.mem_append.mp he with he | he
    · exact ih e he
    · exact List.mem_singleton.mp he ▸ hc

/-- A weaker condition, where an invariant of the run may be used. -/
theorem mono_of_invariant {I : σ → Prop} (h : Run step C s₀ es s) (hinit : I s₀)
    (hstep : ∀ s e s', I s → C s e → step s e = some s' → I s')
    (hcond : ∀ s e s', I s → C s e → step s e = some s' → D s e) : Run step D s₀ es s := by
  induction h with
  | nil => exact .nil
  | snoc hrun hs hc ih =>
    exact .snoc ih hs (hcond _ _ _ (hrun.invariant hinit hstep) hc hs)

/-- Runs compose. -/
theorem append {es' : List ε} {s' : σ} (h : Run step C s₀ es s) (h' : Run step C s es' s') :
    Run step C s₀ (es ++ es') s' := by
  induction h' with
  | nil => simpa only [List.append_nil] using h
  | snoc _ hs hcond ih => simpa only [List.append_assoc] using ih.snoc hs hcond

/-- A step before a run. -/
theorem cons {s₁ : σ} {e : ε} (hstep : step s₀ e = some s₁) (hcond : C s₀ e)
    (h : Run step C s₁ es s) : Run step C s₀ (e :: es) s :=
  (Run.nil.snoc hstep hcond).append h

/-- The trace of a run that goes on is that of its parts. -/
theorem trace_append (f : σ → ε → List α) (h : Run step C s₀ es s) (es' : List ε) :
    trace step f s₀ (es ++ es') = trace step f s₀ es ++ trace step f s es' := by
  induction h generalizing es' with
  | nil => rfl
  | @snoc es s s' e _ hs _ ih =>
    have hcons (l : List ε) : trace step f s (e :: l) = f s e ++ trace step f s' l := by
      rw [trace, hs]
    rw [List.append_assoc, ih, ih [e], List.singleton_append, hcons, trace_singleton,
      List.append_assoc]

theorem trace_snoc (f : σ → ε → List α) (h : Run step C s₀ es s) (e : ε) :
    trace step f s₀ (es ++ [e]) = trace step f s₀ es ++ f s e := by
  rw [h.trace_append f, trace_singleton]

/-- When every step does to the abstract state what the operations of its event do, a run does what
the operations of its trace do. -/
theorem refines {I : σ → Prop} {astep : τ → α → τ} {f : σ → ε → List α} (abs : σ → τ)
    (h : Run step C s₀ es s) (hinit : I s₀)
    (hkeep : ∀ s e s', I s → C s e → step s e = some s' → I s')
    (hstep : ∀ s e s', I s → C s e → step s e = some s' →
      abs s' = (f s e).foldl astep (abs s)) :
    abs s = (trace step f s₀ es).foldl astep (abs s₀) := by
  induction h with
  | nil => rfl
  | snoc hrun hs hcond ih =>
    rw [hrun.trace_snoc, List.foldl_append, ← ih]
    exact hstep _ _ _ (hrun.invariant hinit hkeep) hcond hs

/-- When every step is a run of the operations of its event, a run is a run of the operations of its
trace. -/
theorem simulates {I : σ → Prop} {step' : τ → α → Option τ} {C' : τ → α → Prop}
    {f : σ → ε → List α} (abs : σ → τ) (h : Run step C s₀ es s) (hinit : I s₀)
    (hkeep : ∀ s e s', I s → C s e → step s e = some s' → I s')
    (hstep : ∀ s e s', I s → C s e → step s e = some s' →
      Run step' C' (abs s) (f s e) (abs s')) :
    Run step' C' (abs s₀) (trace step f s₀ es) (abs s) := by
  induction h with
  | nil => exact .nil
  | snoc hrun hs hcond ih =>
    rw [hrun.trace_snoc]
    exact ih.append (hstep _ _ _ (hrun.invariant hinit hkeep) hcond hs)

/-- The last step of a run. -/
theorem snoc_iff {e : ε} {s' : σ} :
    Run step C s₀ (es ++ [e]) s' ↔ ∃ s, Run step C s₀ es s ∧ step s e = some s' ∧ C s e := by
  constructor
  · intro h
    generalize hes : es ++ [e] = l at h
    cases h with
    | nil => exact absurd hes (List.append_ne_nil_of_right_ne_nil _ (List.cons_ne_nil _ _))
    | snoc hrun hs hcond =>
      obtain ⟨rfl, hlast⟩ := List.append_inj' hes rfl
      obtain rfl := List.singleton_inj.mp hlast
      exact ⟨_, hrun, hs, hcond⟩
  · rintro ⟨s, hrun, hs, hcond⟩
    exact hrun.snoc hs hcond

/-- A run of a list goes through a run of each of its prefixes. -/
theorem of_append {es' : List ε} {s' : σ} (h : Run step C s₀ (es ++ es') s') :
    ∃ s, Run step C s₀ es s ∧ Run step C s es' s' := by
  induction es' using List.reverseRecOn generalizing s' with
  | nil => exact ⟨s', by simpa only [List.append_nil] using h, .nil⟩
  | append_singleton es' e ih =>
    rw [← List.append_assoc] at h
    obtain ⟨t, hrun, hs, hcond⟩ := snoc_iff.mp h
    obtain ⟨s, hprefix, hrest⟩ := ih hrun
    exact ⟨s, hprefix, hrest.snoc hs hcond⟩

/-- The events determine the state that is reached. -/
theorem foldlM_eq (h : Run step C s₀ es s) : es.foldlM step s₀ = some s := by
  induction h with
  | nil => rfl
  | snoc _ hs _ ih =>
    rw [List.foldlM_append, ih]
    simp only [List.foldlM_cons, List.foldlM_nil, Option.bind_eq_bind, Option.bind_some, hs]
    rfl

/-- Accepted events are a run. -/
theorem of_foldlM_eq (h : es.foldlM step s₀ = some s) : Run step (fun _ _ => True) s₀ es s := by
  induction es generalizing s₀ with
  | nil =>
    obtain rfl := Option.some.inj h
    exact .nil
  | cons e es ih =>
    rw [List.foldlM_cons, Option.bind_eq_bind, Option.bind_eq_some_iff] at h
    obtain ⟨s₁, hs, hrest⟩ := h
    exact .cons hs trivial (ih hrest)

theorem state_unique {s' : σ} (h : Run step C s₀ es s) (h' : Run step D s₀ es s') : s = s' :=
  Option.some.inj (h.foldlM_eq.symm.trans h'.foldlM_eq)

/-- When a step from a safe state leads to a safe state exactly under a condition, the runs whose
states are all safe are the runs whose steps all meet the condition. -/
theorem and_iff_forall_prefix {I P : σ → Prop} (h : Run step C s₀ es s) (hinit : I s₀)
    (hkeep : ∀ s e s', I s → C s e → step s e = some s' → I s') (hsafe : P s₀)
    (hstep : ∀ s e s', I s → P s → C s e → step s e = some s' → (P s' ↔ D s e)) :
    Run step (fun s e => C s e ∧ D s e) s₀ es s ↔
      ∀ es' s', es' <+: es → Run step C s₀ es' s' → P s' := by
  constructor
  · rintro hrun es' s' ⟨rest, rfl⟩ hprefix
    obtain ⟨t, ht, -⟩ := hrun.of_append
    obtain rfl := hprefix.state_unique ht
    refine (ht.invariant (I := fun s => I s ∧ P s) ⟨hinit, hsafe⟩ ?_).2
    rintro s e s' ⟨hI, hP⟩ ⟨hC, hD⟩ hs
    exact ⟨hkeep s e s' hI hC hs, (hstep s e s' hI hP hC hs).mpr hD⟩
  · intro hall
    induction h with
    | nil => exact .nil
    | @snoc es s s' e hrun hs hC ih =>
      have hbefore : ∀ es' t, es' <+: es → Run step C s₀ es' t → P t :=
        fun es' t hle => hall es' t (hle.trans (List.prefix_append es [e]))
      refine (ih hbefore).snoc hs ⟨hC, ?_⟩
      have hI := hrun.invariant hinit hkeep
      exact (hstep s e s' hI (hbefore es s (List.prefix_refl es) hrun) hC hs).mp
        (hall _ s' (List.prefix_refl _) (hrun.snoc hs hC))

/-- **Runs that end safely.** When a step leads to a safe state exactly from a safe state under a
condition, a run ends in a safe state exactly when its steps all meet the condition. -/
theorem and_iff_of_step {I P : σ → Prop} (h : Run step C s₀ es s) (hinit : I s₀)
    (hkeep : ∀ s e s', I s → C s e → step s e = some s' → I s') (hsafe : P s₀)
    (hstep : ∀ s e s', I s → C s e → step s e = some s' → (P s' ↔ P s ∧ D s e)) :
    Run step (fun s e => C s e ∧ D s e) s₀ es s ↔ P s := by
  induction h with
  | nil => exact iff_of_true .nil hsafe
  | @snoc es s s' e hrun hs hC ih =>
    have hI := hrun.invariant hinit hkeep
    rw [hstep s e s' hI hC hs]
    constructor
    · intro hrun'
      obtain ⟨t, ht, hs', -, hD⟩ := snoc_iff.mp hrun'
      obtain rfl := ht.state_unique hrun
      exact ⟨ih.mp ht, hD⟩
    · rintro ⟨hP, hD⟩
      exact (ih.mpr hP).snoc hs ⟨hC, hD⟩

end Run

end StepSystem
