import MctpEmu.Library.StepSystem

/-!
# Two parties over a network that loses messages

Two parties take steps of their own and send each other messages. The network between them may
deliver a message late or never, and deliver it again; it makes none up. A party keeps what it has
sent, and may be given any of it at any time.

## Main definitions

* `StepSystem.Party`: a step function, the messages that its events bring, and those that were sent.
* `StepSystem.link`: the system of two parties.

## Main results

* `StepSystem.Run.fst`, `StepSystem.Run.snd`: each party makes a run of its own, in which it
  receives what the other one has sent.
-/

namespace StepSystem

/-- A party with the states `σ` and the events `ε` that receives messages of `α` and sends messages
of `β`. What it has sent stays sent. -/
structure Party (σ ε α β : Type*) where
  step : σ → ε → Option σ
  received : ε → Option α
  sent : σ → List β
  sent_subset : ∀ {s e s'}, step s e = some s' → sent s ⊆ sent s'

section Link

variable {σ ε τ φ α β : Type*} [DecidableEq α] [DecidableEq β]

/-- One party takes a step; a message that it receives has been sent by the other one. -/
def link (P : Party σ ε α β) (Q : Party τ φ β α) (s : σ × τ) : ε ⊕ φ → Option (σ × τ)
  | .inl e =>
    if (P.received e).all (· ∈ Q.sent s.2) then (P.step s.1 e).map fun s' => (s', s.2) else none
  | .inr e =>
    if (Q.received e).all (· ∈ P.sent s.1) then (Q.step s.2 e).map fun t' => (s.1, t') else none

variable {P : Party σ ε α β} {Q : Party τ φ β α} {s s' : σ × τ}

theorem link_inl {e : ε} (h : link P Q s (.inl e) = some s') :
    (∀ m ∈ P.received e, m ∈ Q.sent s.2) ∧ P.step s.1 e = some s'.1 ∧ s'.2 = s.2 := by
  rw [link] at h
  split_ifs at h with hsent
  obtain ⟨t, ht, rfl⟩ := Option.map_eq_some_iff.mp h
  exact ⟨by simpa [Option.all_eq_true] using hsent, ht, rfl⟩

theorem link_inr {e : φ} (h : link P Q s (.inr e) = some s') :
    (∀ m ∈ Q.received e, m ∈ P.sent s.1) ∧ Q.step s.2 e = some s'.2 ∧ s'.1 = s.1 := by
  rw [link] at h
  split_ifs at h with hsent
  obtain ⟨t, ht, rfl⟩ := Option.map_eq_some_iff.mp h
  exact ⟨by simpa [Option.all_eq_true] using hsent, ht, rfl⟩

namespace Run

variable {C : σ × τ → ε ⊕ φ → Prop} {s₀ : σ × τ} {es : List (ε ⊕ φ)}

/-- The first party makes a run of its own events, and receives what the second one has sent. -/
theorem fst (h : Run (link P Q) C s₀ es s) :
    Run P.step (fun _ e => ∀ m ∈ P.received e, m ∈ Q.sent s.2) s₀.1
      (es.filterMap Sum.getLeft?) s.1 := by
  induction h with
  | nil => exact .nil
  | @snoc es s s' e _ hstep _ ih =>
    rw [List.filterMap_append]
    cases e with
    | inl e =>
      obtain ⟨hsent, hP, hQ⟩ := link_inl hstep
      rw [hQ]
      exact ih.snoc hP hsent
    | inr e =>
      obtain ⟨-, hQ, hP⟩ := link_inr hstep
      have hmono := ih.mono fun _ _ hsent m hm => Q.sent_subset hQ (hsent m hm)
      rw [hP]
      exact (List.append_nil (es.filterMap Sum.getLeft?)).symm ▸ hmono

/-- The second party makes a run of its own events, and receives what the first one has sent. -/
theorem snd (h : Run (link P Q) C s₀ es s) :
    Run Q.step (fun _ e => ∀ m ∈ Q.received e, m ∈ P.sent s.1) s₀.2
      (es.filterMap Sum.getRight?) s.2 := by
  induction h with
  | nil => exact .nil
  | @snoc es s s' e _ hstep _ ih =>
    rw [List.filterMap_append]
    cases e with
    | inl e =>
      obtain ⟨-, hP, hQ⟩ := link_inl hstep
      have hmono := ih.mono fun _ _ hsent m hm => P.sent_subset hP (hsent m hm)
      rw [hQ]
      exact (List.append_nil (es.filterMap Sum.getRight?)).symm ▸ hmono
    | inr e =>
      obtain ⟨hsent, hQ, hP⟩ := link_inr hstep
      rw [hP]
      exact ih.snoc hQ hsent

end Run

end Link

end StepSystem
