import Mathlib.Data.List.Nodup
import Mathlib.Logic.Function.Basic
import Mathlib.Tactic.Common

/-!
# One list as a family of queues

A list whose entries carry keys holds one first-in first-out queue for each key: the entries with
that key, in order. Appending to the list appends to one queue, and erasing the first entry with
a key removes the head of its queue; the other queues do not change.

## Main definitions

* `KeyedFifo.queue`: the entries of a list with a given key.
* `KeyedFifo.enqueue`, `KeyedFifo.dequeue`: the operations on a family of queues.

## Main results

* `KeyedFifo.queue_append_singleton`, `KeyedFifo.queue_eraseP`: the list refines the family.
* `KeyedFifo.getElem?_concat_eq_some`: what stands where after an entry was appended.
* `KeyedFifo.getElem?_findIdx`, `KeyedFifo.eraseIdx_findIdx`: an index scan finds and erases the
  first match.
* `KeyedFifo.exists_split_of_find?`, `KeyedFifo.mem_eraseP_iff`: where the first match stands, and
  what is left without it.
-/

namespace KeyedFifo

variable {α κ : Type*}

section Positions

variable {l l' : List α} {a b : α} {i : ℕ}

/-- What stands at a place of a list after an entry was appended. -/
theorem getElem?_concat_eq_some :
    (l ++ [a])[i]? = some b ↔ l[i]? = some b ∨ (i = l.length ∧ a = b) := by
  rcases Nat.lt_trichotomy i l.length with hlt | rfl | hgt
  · rw [List.getElem?_append_left hlt]
    simp [Nat.ne_of_lt hlt]
  · simp
  · rw [List.getElem?_eq_none (by simp; omega), List.getElem?_eq_none (by omega)]
    simp [Nat.ne_of_gt hgt]

/-- A list that goes on keeps what stands in it. -/
theorem getElem?_of_prefix (h : l <+: l') (hi : l[i]? = some b) : l'[i]? = some b := by
  obtain ⟨t, rfl⟩ := h
  obtain ⟨hlt, -⟩ := List.getElem?_eq_some_iff.mp hi
  rw [List.getElem?_append_left hlt]
  exact hi

end Positions

section Scan

variable {p : α → Bool} {l : List α}

/-- A scan for the first match stops at it, or past the end. -/
theorem getElem?_findIdx (p : α → Bool) (l : List α) : l[l.findIdx p]? = l.find? p :=
  List.find?_eq_getElem?_findIdx.symm

/-- Removing at the index of a scan erases the first match. -/
theorem eraseIdx_findIdx (p : α → Bool) (l : List α) :
    l.eraseIdx (l.findIdx p) = l.eraseP p := by
  induction l with
  | nil => rfl
  | cons a l ih =>
    by_cases ha : p a
    · rw [List.findIdx_cons, ha, List.eraseP_cons_of_pos ha]
      rfl
    · rw [List.findIdx_cons, Bool.eq_false_iff.mpr ha, List.eraseP_cons_of_neg ha, ← ih]
      rfl

/-- The first match stands after entries that do not match. -/
theorem exists_split_of_find? {a : α} (h : l.find? p = some a) :
    p a = true ∧ ∃ pre post, l = pre ++ a :: post ∧ (∀ b ∈ pre, p b = false) ∧
      l.eraseP p = pre ++ post := by
  obtain ⟨ha, pre, post, hl, hpre⟩ := List.find?_eq_some_iff_append.mp h
  refine ⟨ha, pre, post, hl, fun b hb => by simpa using hpre b hb, ?_⟩
  rw [hl, List.eraseP_append_right _ fun b hb => by simpa using hpre b hb,
    List.eraseP_cons_of_pos ha]

/-- In a list with distinct labels, erasing the first match removes exactly the entry with its
label. -/
theorem mem_eraseP_iff {β : Type*} {f : α → β} (hnodup : (l.map f).Nodup) {a : α}
    (h : l.find? p = some a) (b : α) : b ∈ l.eraseP p ↔ b ∈ l ∧ f b ≠ f a := by
  obtain ⟨-, pre, post, rfl, -, herase⟩ := exists_split_of_find? h
  rw [List.map_append, List.map_cons, List.nodup_middle, List.nodup_cons, List.mem_append] at hnodup
  obtain ⟨hnot, -⟩ := hnodup
  rw [herase, List.mem_append, List.mem_append, List.mem_cons]
  constructor
  · rintro (hb | hb)
    · exact ⟨.inl hb, fun he => hnot (.inl (he ▸ List.mem_map_of_mem hb))⟩
    · exact ⟨.inr (.inr hb), fun he => hnot (.inr (he ▸ List.mem_map_of_mem hb))⟩
  · rintro ⟨hb | rfl | hb, hne⟩
    · exact .inl hb
    · exact absurd rfl hne
    · exact .inr hb

/-- Erasing the first match erases its label from the list of labels. -/
theorem map_eraseP_eq_erase {β : Type*} [DecidableEq β] {f : α → β} (hnodup : (l.map f).Nodup)
    {a : α} (h : l.find? p = some a) : (l.eraseP p).map f = (l.map f).erase (f a) := by
  obtain ⟨-, pre, post, rfl, -, herase⟩ := exists_split_of_find? h
  rw [List.map_append, List.map_cons] at hnodup ⊢
  have hnot : f a ∉ pre.map f := fun hmem =>
    (List.nodup_cons.mp (List.nodup_middle.mp hnodup)).1 (List.mem_append_left _ hmem)
  rw [herase, List.map_append, List.erase_append_right _ hnot, List.erase_cons_head]

/-- Which entry is erased depends on the predicate on the entries of the list only. -/
theorem eraseP_congr {q : α → Bool} (h : ∀ a ∈ l, p a = q a) : l.eraseP p = l.eraseP q := by
  induction l with
  | nil => rfl
  | cons a l ih =>
    rw [List.eraseP_cons, List.eraseP_cons, h a List.mem_cons_self,
      ih fun b hb => h b (List.mem_cons_of_mem a hb)]

/-- Erasing the first match of one predicate keeps another first match of another one. -/
theorem find?_eraseP_of_ne {q : α → Bool} {a b : α} (ha : l.find? p = some a)
    (hb : l.find? q = some b) (hne : a ≠ b) : (l.eraseP p).find? q = some b := by
  obtain ⟨-, pre, post, rfl, -, herase⟩ := exists_split_of_find? ha
  rw [List.find?_append] at hb
  rw [herase, List.find?_append]
  cases hpre : pre.find? q with
  | some c =>
    rw [hpre] at hb
    exact hb
  | none =>
    rw [hpre, Option.none_or, List.find?_cons] at hb
    split at hb
    · exact absurd (Option.some.inj hb) hne
    · exact hb

theorem nodup_map_eraseP {β : Type*} {f : α → β} (hnodup : (l.map f).Nodup) :
    ((l.eraseP p).map f).Nodup :=
  hnodup.sublist (l.eraseP_sublist.map f)

end Scan

section Queues

variable [DecidableEq κ] (key : α → κ)

/-- The entries with key `k`, the oldest first. -/
def queue (l : List α) (k : κ) : List α := l.filter fun a => key a = k

/-- Append an entry to the queue of `k`. -/
def enqueue (q : κ → List α) (k : κ) (a : α) : κ → List α := Function.update q k (q k ++ [a])

/-- Remove the oldest entry of the queue of `k`. -/
def dequeue (q : κ → List α) (k : κ) : κ → List α := Function.update q k (q k).tail

@[simp] theorem queue_nil (k : κ) : queue key [] k = [] := rfl

theorem queue_cons_of_eq {a : α} {k : κ} (h : key a = k) (l : List α) :
    queue key (a :: l) k = a :: queue key l k :=
  List.filter_cons_of_pos (by simpa using h)

theorem queue_cons_of_ne {a : α} {k : κ} (h : key a ≠ k) (l : List α) :
    queue key (a :: l) k = queue key l k :=
  List.filter_cons_of_neg (by simpa using h)

theorem queue_append (l l' : List α) (k : κ) :
    queue key (l ++ l') k = queue key l k ++ queue key l' k :=
  List.filter_append l l'

/-- Appending to the list appends to the queue of the entry's key. -/
theorem queue_append_singleton (l : List α) (a : α) :
    queue key (l ++ [a]) = enqueue (queue key l) (key a) a := by
  funext k
  rw [queue_append]
  by_cases hk : key a = k
  · subst hk
    rw [enqueue, Function.update_self, queue_cons_of_eq key rfl, queue_nil]
  · rw [enqueue, Function.update_of_ne (Ne.symm hk), queue_cons_of_ne key hk, queue_nil,
      List.append_nil]

/-- The oldest entry of a queue is the first entry of the list with its key. -/
theorem head?_queue (l : List α) (k : κ) :
    (queue key l k).head? = l.find? fun a => key a = k := by
  rw [queue, List.head?_filter]

/-- Erasing the first entry with a key removes the head of the queue of this key. -/
theorem queue_eraseP (l : List α) (k : κ) :
    queue key (l.eraseP fun a => key a = k) = dequeue (queue key l) k := by
  funext k'
  induction l with
  | nil =>
    by_cases hk : k' = k
    · rw [dequeue, hk, Function.update_self]
      rfl
    · rw [dequeue, Function.update_of_ne hk]
      rfl
  | cons a l ih =>
    by_cases ha : key a = k
    · rw [List.eraseP_cons_of_pos (by simpa using ha), dequeue]
      by_cases hk : k' = k
      · rw [hk, Function.update_self, queue_cons_of_eq key ha, List.tail_cons]
      · rw [Function.update_of_ne hk, queue_cons_of_ne key fun h => hk (h.symm.trans ha)]
    · rw [List.eraseP_cons_of_neg (by simpa using ha)]
      by_cases hk : k' = k
      · rw [hk, dequeue, Function.update_self] at ih ⊢
        rw [queue_cons_of_ne key ha, queue_cons_of_ne key ha, ih]
      · rw [dequeue, Function.update_of_ne hk] at ih ⊢
        by_cases hk' : key a = k'
        · rw [queue_cons_of_eq key hk', queue_cons_of_eq key hk', ih]
        · rw [queue_cons_of_ne key hk', queue_cons_of_ne key hk', ih]

section Map

variable {β : Type*} (f : α → β) (q : κ → List α) (k : κ)

theorem map_enqueue (a : α) :
    (fun k' => (enqueue q k a k').map f) = enqueue (fun k' => (q k').map f) k (f a) := by
  funext k'
  by_cases hk : k' = k
  · rw [hk, enqueue, enqueue, Function.update_self, Function.update_self, List.map_append,
      List.map_singleton]
  · rw [enqueue, enqueue, Function.update_of_ne hk, Function.update_of_ne hk]

theorem map_dequeue :
    (fun k' => (dequeue q k k').map f) = dequeue (fun k' => (q k').map f) k := by
  funext k'
  by_cases hk : k' = k
  · rw [hk, dequeue, dequeue, Function.update_self, Function.update_self, List.map_tail]
  · rw [dequeue, dequeue, Function.update_of_ne hk, Function.update_of_ne hk]

end Map

end Queues

end KeyedFifo
