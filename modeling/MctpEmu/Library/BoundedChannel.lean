import Mathlib.Data.List.Infix
import Mathlib.Tactic.Common

/-!
# Bounded channels

A first-in first-out channel with a number of slots, any number of senders and one receiver. A
sender that finds no slot waits for one. A slot that the receiver sets free goes to a sender that
waits, if there is one, and stays reserved until that sender puts its message there, so that nobody
overtakes it. The channel closes with its receiver, and the messages in it are lost.

## Main definitions

* `BoundedChannel`: the messages, the reserved slots and the senders that wait.
* `BoundedChannel.trySend`, `BoundedChannel.wait`, `BoundedChannel.fill`: a message is sent at once,
  a sender begins to wait, and a sender that has waited sends its message.
* `BoundedChannel.recv`: the oldest message is received.
* `BoundedChannel.map`: the channel with the images of its messages.
* `BoundedChannel.InOrder`: what was received and what was sent.

## Main results

* `BoundedChannel.recv_eq_some`, `BoundedChannel.fill_eq_some` and their siblings: what the
  operations do.
* `BoundedChannel.InOrder.send`, `BoundedChannel.InOrder.recv`, `BoundedChannel.InOrder.close`: no
  message is lost, duplicated or reordered while the channel is open.
-/

/-- A channel with its messages, the slots that are reserved for senders that have waited, and the
number of senders that wait. Senders wait only while all slots are taken. -/
structure BoundedChannel (α : Type*) (capacity : ℕ) where
  queue : List α
  reserved : ℕ
  waiting : ℕ
  used_le : queue.length + reserved ≤ capacity
  used_eq : 0 < waiting → queue.length + reserved = capacity
deriving DecidableEq, Repr

namespace BoundedChannel

variable {α β : Type*} {capacity : ℕ}

/-- A channel without messages. -/
def empty (α : Type*) (capacity : ℕ) : BoundedChannel α capacity where
  queue := []
  reserved := 0
  waiting := 0
  used_le := Nat.zero_le capacity
  used_eq h := absurd h (Nat.lt_irrefl 0)

/-- A slot is neither taken nor reserved. -/
def HasRoom (c : BoundedChannel α capacity) : Prop := c.queue.length + c.reserved < capacity

instance (c : BoundedChannel α capacity) : Decidable c.HasRoom :=
  inferInstanceAs (Decidable (_ < _))

/-- The message is sent if there is room. -/
def trySend (c : BoundedChannel α capacity) (a : α) : Option (BoundedChannel α capacity) :=
  if h : c.HasRoom then
    some
      { queue := c.queue ++ [a]
        reserved := c.reserved
        waiting := c.waiting
        used_le := by
          rw [HasRoom] at h
          rw [List.length_append, List.length_singleton]
          omega
        used_eq := fun hw => absurd (c.used_eq hw) (Nat.ne_of_lt h) }
  else none

/-- A sender that finds no room begins to wait. -/
def wait (c : BoundedChannel α capacity) : Option (BoundedChannel α capacity) :=
  if h : c.HasRoom then none
  else some { c with
    waiting := c.waiting + 1
    used_eq := fun _ => Nat.le_antisymm c.used_le (Nat.not_lt.mp h) }

/-- A sender that has waited puts its message into the slot that is reserved for it. -/
def fill (c : BoundedChannel α capacity) (a : α) : Option (BoundedChannel α capacity) :=
  if h : 0 < c.reserved then
    have used : (c.queue ++ [a]).length + (c.reserved - 1) = c.queue.length + c.reserved := by
      rw [List.length_append, List.length_singleton]
      omega
    some
      { queue := c.queue ++ [a]
        reserved := c.reserved - 1
        waiting := c.waiting
        used_le := used.trans_le c.used_le
        used_eq := fun hw => used.trans (c.used_eq hw) }
  else none

/-- The oldest message is received; its slot is reserved for a sender that waits. -/
def recv (c : BoundedChannel α capacity) : Option (α × BoundedChannel α capacity) :=
  if h : c.queue = [] then none
  else
    have length : c.queue.tail.length + 1 = c.queue.length := by
      have hpos := List.length_pos_iff.mpr h
      rw [List.length_tail]
      omega
    if hw : 0 < c.waiting then
      have used : c.queue.tail.length + (c.reserved + 1) = capacity := by
        have hused := c.used_eq hw
        omega
      some (c.queue.head h,
        { queue := c.queue.tail
          reserved := c.reserved + 1
          waiting := c.waiting - 1
          used_le := used.le
          used_eq := fun _ => used })
    else
      some (c.queue.head h,
        { queue := c.queue.tail
          reserved := c.reserved
          waiting := 0
          used_le := by
            have hused := c.used_le
            omega
          used_eq := fun h => absurd h (Nat.lt_irrefl 0) })

/-- The channel with the images of the messages. -/
def map (f : α → β) (c : BoundedChannel α capacity) : BoundedChannel β capacity where
  queue := c.queue.map f
  reserved := c.reserved
  waiting := c.waiting
  used_le := by
    rw [List.length_map]
    exact c.used_le
  used_eq hw := by
    rw [List.length_map]
    exact c.used_eq hw

@[simp] theorem queue_map (f : α → β) (c : BoundedChannel α capacity) :
    (c.map f).queue = c.queue.map f := rfl

/-! ### What the operations do -/

section Operations

variable {c c' : BoundedChannel α capacity} {a : α}

theorem trySend_eq_none_iff : c.trySend a = none ↔ ¬ c.HasRoom := by
  rw [trySend]
  by_cases h : c.HasRoom
  · rw [dif_pos h]
    exact iff_of_false (Option.some_ne_none _) (not_not.mpr h)
  · rw [dif_neg h]
    exact iff_of_true rfl h

theorem trySend_eq_some (h : c.trySend a = some c') :
    c.HasRoom ∧ c'.queue = c.queue ++ [a] ∧ c'.reserved = c.reserved ∧ c'.waiting = c.waiting := by
  rw [trySend] at h
  split_ifs at h with hroom
  obtain rfl := Option.some.inj h
  exact ⟨hroom, rfl, rfl, rfl⟩

theorem wait_eq_some (h : c.wait = some c') :
    ¬ c.HasRoom ∧ c'.queue = c.queue ∧ c'.reserved = c.reserved ∧
      c'.waiting = c.waiting + 1 := by
  rw [wait] at h
  split_ifs at h with hroom
  obtain rfl := Option.some.inj h
  exact ⟨hroom, rfl, rfl, rfl⟩

/-- A sender either sends its message at once or waits. -/
theorem exists_wait_of_trySend_eq_none (h : c.trySend a = none) : ∃ c', c.wait = some c' :=
  ⟨_, dif_neg (trySend_eq_none_iff.mp h)⟩

theorem fill_eq_some (h : c.fill a = some c') :
    c'.queue = c.queue ++ [a] ∧ c.reserved = c'.reserved + 1 ∧ c'.waiting = c.waiting := by
  rw [fill] at h
  split_ifs at h with hpos
  obtain rfl := Option.some.inj h
  exact ⟨rfl, (Nat.sub_add_cancel hpos).symm, rfl⟩

theorem fill_eq_none_iff : c.fill a = none ↔ c.reserved = 0 := by
  rw [fill]
  by_cases h : 0 < c.reserved
  · rw [dif_pos h]
    exact iff_of_false (Option.some_ne_none _) (Nat.ne_of_gt h)
  · rw [dif_neg h]
    exact iff_of_true rfl (Nat.eq_zero_of_not_pos h)

theorem recv_eq_none_iff : c.recv = none ↔ c.queue = [] := by
  rw [recv]
  by_cases h : c.queue = []
  · rw [dif_pos h]
    exact iff_of_true rfl h
  rw [dif_neg h]
  refine iff_of_false ?_ h
  by_cases hw : 0 < c.waiting
  · rw [dif_pos hw]
    exact Option.some_ne_none _
  · rw [dif_neg hw]
    exact Option.some_ne_none _

/-- The oldest message is received, and the senders that wait or have a slot stay as many. -/
theorem recv_eq_some (h : c.recv = some (a, c')) :
    c.queue = a :: c'.queue ∧ c'.reserved + c'.waiting = c.reserved + c.waiting := by
  rw [recv] at h
  split_ifs at h with hnil hw
  · obtain ⟨rfl, rfl⟩ := Prod.mk.inj (Option.some.inj h)
    refine ⟨(List.cons_head_tail hnil).symm, ?_⟩
    change c.reserved + 1 + (c.waiting - 1) = c.reserved + c.waiting
    omega
  · obtain ⟨rfl, rfl⟩ := Prod.mk.inj (Option.some.inj h)
    refine ⟨(List.cons_head_tail hnil).symm, ?_⟩
    change c.reserved + 0 = c.reserved + c.waiting
    rw [Nat.eq_zero_of_not_pos hw]

/-- A message that is sent is sent in the image as well. -/
theorem queue_map_concat (f : α → β) (h : c'.queue = c.queue ++ [a]) :
    (c'.map f).queue = (c.map f).queue ++ [f a] := by
  rw [queue_map, queue_map, h, List.map_append, List.map_singleton]

/-- A message that is received is received in the image as well. -/
theorem queue_map_cons (f : α → β) (h : c.queue = a :: c'.queue) :
    (c.map f).queue = f a :: (c'.map f).queue := by
  rw [queue_map, queue_map, h, List.map_cons]

theorem queue_map_congr (f : α → β) (h : c'.queue = c.queue) :
    (c'.map f).queue = (c.map f).queue := by
  rw [queue_map, queue_map, h]

end Operations

/-! ### Order -/

/-- What was received are the first messages that were sent; while the channel is open, the others
are in it. -/
structure InOrder (sent received : List α) (c : Option (BoundedChannel α capacity)) : Prop where
  received_prefix : received <+: sent
  sent_eq : ∀ c', c = some c' → sent = received ++ c'.queue

namespace InOrder

variable {sent received : List α} {c c' : BoundedChannel α capacity} {a : α}

theorem empty : InOrder [] [] (some (BoundedChannel.empty α capacity)) where
  received_prefix := List.prefix_rfl
  sent_eq c' h := by
    obtain rfl := Option.some.inj h
    rfl

/-- A message is sent. -/
theorem send (h : InOrder sent received (some c)) (hqueue : c'.queue = c.queue ++ [a]) :
    InOrder (sent ++ [a]) received (some c') where
  received_prefix := h.received_prefix.trans (List.prefix_append _ _)
  sent_eq d hd := by
    obtain rfl := Option.some.inj hd
    rw [h.sent_eq c rfl, hqueue, List.append_assoc]

/-- A sender begins to wait. -/
theorem keep (h : InOrder sent received (some c)) (hqueue : c'.queue = c.queue) :
    InOrder sent received (some c') where
  received_prefix := h.received_prefix
  sent_eq d hd := by
    obtain rfl := Option.some.inj hd
    rw [h.sent_eq c rfl, hqueue]

/-- The oldest message is received, and the channel may be closed after it. -/
theorem recv (h : InOrder sent received (some c)) (hqueue : c.queue = a :: c'.queue) :
    InOrder sent (received ++ [a]) (some c') where
  received_prefix := by
    rw [h.sent_eq c rfl, hqueue]
    exact (List.prefix_append_right_inj received).mpr ⟨c'.queue, rfl⟩
  sent_eq d hd := by
    obtain rfl := Option.some.inj hd
    rw [h.sent_eq c rfl, hqueue, List.append_assoc, List.singleton_append]

/-- The channel is closed. -/
theorem close {c : Option (BoundedChannel α capacity)} (h : InOrder sent received c) :
    InOrder sent received (none : Option (BoundedChannel α capacity)) where
  received_prefix := h.received_prefix
  sent_eq _ h := absurd h (Option.some_ne_none _).symm

end InOrder

end BoundedChannel
