import Mathlib.Algebra.GroupWithZero.Nat
import Mathlib.Algebra.Order.BigOperators.Group.List
import MctpEmu.Library.StepSystem

/-!
# Potentials of runs

A potential is a number of a state that its steps pay from. It bounds what the steps of a run cost,
and how long a run can go on before something has happened.

## Main results

* `StepSystem.Run.cost_le`: the cost of a run is at most its credit and the potential at its start.
* `StepSystem.Run.reaches`: what the steps bring nearer has happened when they have cost enough.
* `StepSystem.sum_map_set`: the potential of a list of parts when one of them is exchanged.
-/

namespace StepSystem

/-- Where every counted event costs one, a run costs the number of its counted events. -/
theorem sum_toNat {ε : Type*} (counted : ε → Bool) (es : List ε) :
    (es.map fun e => (counted e).toNat).sum = es.countP counted := by
  induction es with
  | nil => rfl
  | cons e es ih =>
    rw [List.map_cons, List.sum_cons, List.countP_cons, ih, Nat.add_comm]
    cases counted e <;> rfl

/-- A part of a list is exchanged. -/
theorem sum_map_set {α : Type*} {f : α → ℕ} {l : List α} {i : ℕ} {a : α} (h : l[i]? = some a)
    (b : α) : ((l.set i b).map f).sum + f a = (l.map f).sum + f b := by
  induction l generalizing i with
  | nil => cases h
  | cons c l ih =>
    cases i with
    | zero =>
      obtain rfl := Option.some.inj h
      simp only [List.set_cons_zero, List.map_cons, List.sum_cons]
      omega
    | succ i =>
      have hrest := ih h
      simp only [List.set_cons_succ, List.map_cons, List.sum_cons]
      omega

namespace Run

variable {σ ε : Type*} {step : σ → ε → Option σ} {C : σ → ε → Prop} {s₀ s : σ} {es : List ε}

/-- When every step is paid by its credit and the potential that it takes, a run costs at most its
credits and the potential at its start. -/
theorem cost_le {I : σ → Prop} (potential : σ → ℕ) (cost credit : ε → ℕ) (h : Run step C s₀ es s)
    (hinit : I s₀) (hkeep : ∀ s e s', I s → C s e → step s e = some s' → I s')
    (hstep : ∀ s e s', I s → C s e → step s e = some s' →
      cost e + potential s' ≤ credit e + potential s) :
    (es.map cost).sum + potential s ≤ (es.map credit).sum + potential s₀ := by
  induction h with
  | nil => exact le_rfl
  | @snoc es s s' e hrun hs hcond ih =>
    have hpaid := hstep s e s' (hrun.invariant hinit hkeep) hcond hs
    simp only [List.map_append, List.map_singleton, List.sum_append, List.sum_singleton]
    omega

/-- When every step from a state that waits comes to the goal, or waits on and takes its cost from
the rank, a run that costs more than the rank at its start comes to the goal. -/
theorem reaches {W G : σ → Prop} (rank : σ → ℕ) (cost : ε → ℕ) (h : Run step C s₀ es s)
    (hwaits : W s₀) (hgoal : ∀ s e s', G s → C s e → step s e = some s' → G s')
    (hstep : ∀ s e s', W s → C s e → step s e = some s' →
      G s' ∨ W s' ∧ cost e + rank s' ≤ rank s)
    (hlt : rank s₀ < (es.map cost).sum) : G s := by
  have hrank : G s ∨ W s ∧ (es.map cost).sum + rank s ≤ rank s₀ := by
    clear hlt
    induction h with
    | nil => exact .inr ⟨hwaits, Nat.le_of_eq (Nat.zero_add _)⟩
    | @snoc es s s' e _ hs hcond ih =>
      rcases ih with hdone | ⟨hwait, hle⟩
      · exact .inl (hgoal s e s' hdone hcond hs)
      · rcases hstep s e s' hwait hcond hs with hdone | ⟨hwait', hle'⟩
        · exact .inl hdone
        · refine .inr ⟨hwait', ?_⟩
          simp only [List.map_append, List.map_singleton, List.sum_append, List.sum_singleton]
          omega
  rcases hrank with hdone | ⟨-, hle⟩
  · exact hdone
  · omega

end Run

end StepSystem
