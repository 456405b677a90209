import Mathlib.Data.List.Induction
import Mathlib.Order.CompletePartialOrder
import Mathlib.Order.Interval.Set.Disjoint

/-!
# Ledgers

A ledger is a list that only grows at its end. Two things are said about ledgers here: that each
entry is justified by the entries before it, and that its ranges have been handed out by a cursor
that never goes back.

## Main definitions

* `Ledger.Justified`: each entry is justified by the entries before it.
* `Ledger.Laid`: ranges handed out one after another by a cursor.
* `Ledger.Covers`: ranges that leave nothing out between two bounds.

## Main results

* `Ledger.Justified.of_split`: the justification of an entry, wherever it stands.
* `Ledger.Laid.pairwise_disjoint`: ranges handed out by a cursor are disjoint.
-/

namespace Ledger

/-! ### Entries and what precedes them -/

section Justified

variable {α : Type*} {P : List α → α → Prop}

/-- Each entry is justified by the entries before it. -/
inductive Justified (P : List α → α → Prop) : List α → Prop
  | nil : Justified P []
  | snoc {l : List α} {a : α} (h : Justified P l) (ha : P l a) : Justified P (l ++ [a])

/-- Two entries at once. -/
theorem Justified.snoc₂ {l : List α} {a b : α} (h : Justified P l) (ha : P l a)
    (hb : P (l ++ [a]) b) : Justified P (l ++ [a, b]) := by
  simpa only [List.append_assoc, List.singleton_append] using (h.snoc ha).snoc hb

/-- Entries that need no justification. -/
theorem Justified.append {l l' : List α} (h : Justified P l) (hl' : ∀ a ∈ l', ∀ l, P l a) :
    Justified P (l ++ l') := by
  induction l' using List.reverseRecOn with
  | nil => simpa only [List.append_nil] using h
  | append_singleton l' a ih =>
    rw [← List.append_assoc]
    refine (ih fun b hb => hl' b (List.mem_append_left _ hb)).snoc (hl' a ?_ _)
    exact List.mem_append_right _ (List.mem_singleton_self a)

/-- The entry after a prefix is justified by this prefix. -/
theorem Justified.of_split {l : List α} (h : Justified P l) {pre post : List α} {a : α}
    (hl : l = pre ++ a :: post) : P pre a := by
  induction h generalizing post with
  | nil => exact absurd hl.symm (List.append_ne_nil_of_right_ne_nil _ (List.cons_ne_nil _ _))
  | @snoc l b h hb ih =>
    induction post using List.reverseRecOn with
    | nil =>
      obtain ⟨rfl, hab⟩ := List.append_inj' hl rfl
      obtain rfl := List.singleton_inj.mp hab
      exact hb
    | append_singleton post c _ =>
      rw [← List.cons_append, ← List.append_assoc] at hl
      exact ih (List.append_inj' hl rfl).1

end Justified

/-! ### Ranges handed out by a cursor -/

section Laid

variable {α : Type*} [Preorder α] {lo c c' : α} {l : List (α × α)}

/-- The half-open ranges that a cursor has handed out on its way from `lo`; it may also have moved
on without handing out a range. -/
inductive Laid (lo : α) : List (α × α) → α → Prop
  | nil : Laid lo [] lo
  | skip {l : List (α × α)} {c c' : α} (h : Laid lo l c) (hle : c ≤ c') : Laid lo l c'
  | alloc {l : List (α × α)} {c c' : α} (h : Laid lo l c) (hle : c ≤ c') :
      Laid lo (l ++ [(c, c')]) c'

namespace Laid

/-- The cursor has not gone back. -/
theorem le (h : Laid lo l c) : lo ≤ c := by
  induction h with
  | nil => exact le_rfl
  | skip _ hle ih => exact ih.trans hle
  | alloc _ hle ih => exact ih.trans hle

/-- Every range lies between the start and the cursor. -/
theorem within (h : Laid lo l c) : ∀ r ∈ l, lo ≤ r.1 ∧ r.2 ≤ c := by
  induction h with
  | nil => nofun
  | skip _ hle ih => exact fun r hr => ⟨(ih r hr).1, (ih r hr).2.trans hle⟩
  | alloc h hle ih =>
    intro r hr
    rcases List.mem_append.mp hr with hr | hr
    · exact ⟨(ih r hr).1, (ih r hr).2.trans hle⟩
    · obtain rfl := List.mem_singleton.mp hr
      exact ⟨h.le, le_rfl⟩

/-- A later range starts where an earlier one has ended. -/
theorem pairwise_le (h : Laid lo l c) : l.Pairwise fun r r' => r.2 ≤ r'.1 := by
  induction h with
  | nil => exact .nil
  | skip _ _ ih => exact ih
  | alloc h _ ih =>
    refine List.pairwise_append.mpr ⟨ih, List.pairwise_singleton _ _, fun r hr r' hr' => ?_⟩
    obtain rfl := List.mem_singleton.mp hr'
    exact (h.within r hr).2

/-- The ranges that a cursor hands out are pairwise disjoint. -/
theorem pairwise_disjoint (h : Laid lo l c) :
    l.Pairwise fun r r' => Disjoint (Set.Ico r.1 r.2) (Set.Ico r'.1 r'.2) := by
  refine h.pairwise_le.imp fun {r r'} hle => Set.disjoint_left.mpr fun x hx hx' => ?_
  exact (hx.2.trans_le (hle.trans hx'.1)).false

end Laid

end Laid

/-! ### Ranges without gaps -/

section Covers

variable {α : Type*} [LinearOrder α] {lo c c' : α} {l : List (α × α)}

/-- Everything from `lo` up to the cursor lies in one of the half-open ranges. -/
def Covers (lo : α) (l : List (α × α)) (c : α) : Prop :=
  ∀ x, lo ≤ x → x < c → ∃ r ∈ l, x ∈ Set.Ico r.1 r.2

theorem Covers.nil (lo : α) : Covers lo [] lo :=
  fun _ hlo hx => absurd hx (not_lt.mpr hlo)

/-- A range that starts at the cursor leaves no gap. -/
theorem Covers.alloc (h : Covers lo l c) (c' : α) : Covers lo (l ++ [(c, c')]) c' := by
  intro x hlo hx
  rcases lt_or_ge x c with hold | hnew
  · obtain ⟨r, hr, hmem⟩ := h x hlo hold
    exact ⟨r, List.mem_append_left _ hr, hmem⟩
  · exact ⟨(c, c'), List.mem_append_right _ (List.mem_singleton_self _), hnew, hx⟩

end Covers

end Ledger
