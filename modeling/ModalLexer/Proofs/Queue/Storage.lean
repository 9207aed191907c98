import Mathlib
import ModalLexer.Proofs.Queue.Fifo

/-! # The storage of a queue

A buffer grows only when it is full and at most four of its slots are spent. Then nearly all of it
is live, so the capacity stays within a multiple of the number of items that are live at a time.
-/

namespace ModalLexer.Queue

variable {α : Type} {q : Queue α} {k : Nat}

/-- A reservation leaves a queue with room as it is. In a full buffer it moves the live items to the
front if more than four slots are spent, and doubles the capacity otherwise. -/
theorem reserve_cases (q : Queue α) :
    (q.buffer.size ≠ q.capacity ∧ q.reserve = q) ∨
    (q.buffer.size = q.capacity ∧ initialCapacity < q.head ∧ q.reserve.head = 0 ∧
      q.reserve.buffer.size = q.size ∧ q.reserve.capacity = q.capacity) ∨
    (q.buffer.size = q.capacity ∧ q.head ≤ initialCapacity ∧ q.reserve.head = q.head ∧
      q.reserve.buffer.size = q.buffer.size ∧
      q.reserve.capacity = q.capacity + max q.capacity initialCapacity) := by
  by_cases hfull : q.buffer.size = q.capacity
  · by_cases hspent : initialCapacity < q.head
    · exact .inr (.inl ⟨hfull, hspent, by simp [reserve, hfull, hspent, size]⟩)
    · exact .inr (.inr ⟨hfull, Nat.not_lt.1 hspent, by simp [reserve, hfull, hspent]⟩)
  · exact .inl ⟨hfull, by simp [reserve, hfull]⟩

@[simp] theorem size_push (q : Queue α) (a : α) : (q.push a).size = q.size + 1 := by
  rw [← length_toList, toList_push, List.length_append, length_toList, List.length_singleton]

theorem capacity_push_cases (q : Queue α) (a : α) :
    (q.push a).capacity = q.capacity ∨
      q.buffer.size = q.capacity ∧ q.head ≤ initialCapacity ∧
        (q.push a).capacity = q.capacity + max q.capacity initialCapacity := by
  have hpush : (q.push a).capacity = q.reserve.capacity := rfl
  rw [hpush]
  rcases q.reserve_cases with
    ⟨-, hsame⟩ | ⟨-, -, -, -, hcapacity⟩ | ⟨hfull, hspent, -, -, hcapacity⟩
  · exact .inl (by rw [hsame])
  · exact .inl hcapacity
  · exact .inr ⟨hfull, hspent, hcapacity⟩

/-- The capacity is a power of two times the initial one, and within what `k` live items account
for. -/
structure Bounded (k : Nat) (q : Queue α) : Prop where
  compact : q.Compact
  power : ∃ n, q.capacity = initialCapacity * 2 ^ n
  le : q.capacity ≤ max initialCapacity (2 * k + 6)

theorem bounded_empty (k : Nat) : (∅ : Queue α).Bounded k :=
  ⟨compact_empty, ⟨0, rfl⟩, Nat.le_max_left _ _⟩

/-- When the capacity is doubled at most four slots of a full buffer are spent, so the live items
with the new one number at least three less than the capacity. -/
theorem Bounded.push (h : q.Bounded k) (a : α) (hlive : (q.push a).size ≤ k) :
    (q.push a).Bounded k := by
  obtain ⟨n, hn⟩ := h.power
  rcases q.capacity_push_cases a with hsame | ⟨hfull, hspent, hgrown⟩
  · exact ⟨h.compact.push a, ⟨n, hsame.trans hn⟩, hsame ▸ h.le⟩
  · have hinitial : initialCapacity ≤ q.capacity := by
      rw [hn]
      exact Nat.le_mul_of_pos_right _ (Nat.two_pow_pos n)
    have hdouble : (q.push a).capacity = 2 * q.capacity := by
      rw [hgrown, Nat.max_eq_left hinitial, Nat.two_mul]
    refine ⟨h.compact.push a, ⟨n + 1, ?_⟩, ?_⟩
    · rw [hdouble, hn, Nat.pow_succ]
      exact (Nat.mul_left_comm _ _ _).trans (by rw [Nat.mul_comm 2])
    · have hsize : (q.push a).size = q.capacity - q.head + 1 := by
        rw [size_push, size, hfull]
      simp only [initialCapacity] at hspent
      omega

section Runs

variable [Inhabited α]

@[simp] theorem step_push (q : Queue α) (a : α) : q.step (.push a) = (none, q.push a) := rfl

@[simp] theorem capacity_pop (q : Queue α) : (q.step .pop).2.capacity = q.capacity := by
  simp only [step, pop?]
  split
  · next h =>
    split at h
    · cases h
      split <;> rfl
    · cases h
  · rfl

/-- Storage is never given back. -/
theorem capacity_le_step (q : Queue α) (op : Op α) : q.capacity ≤ (q.step op).2.capacity := by
  cases op with
  | push a => rcases q.capacity_push_cases a with hsame | ⟨-, -, hgrown⟩ <;> simp [*]
  | pop => simp

theorem Compact.step (h : q.Compact) (op : Op α) : (q.step op).2.Compact :=
  ((holds_of_toList rfl h).step op).holds.compact

theorem Bounded.pop (h : q.Bounded k) : (q.step .pop).2.Bounded k where
  compact := h.compact.step .pop
  power := by simpa using h.power
  le := by simpa using h.le

/-- The queues of a run: the one that it begins with, and what each operation leaves. -/
def states (q : Queue α) (ops : List (Op α)) : List (Queue α) :=
  q :: (Op.runs step q ops).map Prod.snd

/-- The greatest number of items that are live behind a push of a run. -/
def peak (q : Queue α) : List (Op α) → Nat
  | [] => 0
  | .push a :: ops => max (q.push a).size (peak (q.push a) ops)
  | .pop :: ops => peak (q.step .pop).2 ops

@[simp] theorem states_nil (q : Queue α) : states q [] = [q] := rfl

@[simp] theorem states_cons (q : Queue α) (op : Op α) (ops : List (Op α)) :
    states q (op :: ops) = q :: states (q.step op).2 ops := rfl

theorem Bounded.states {ops : List (Op α)} (h : q.Bounded k) (hpeak : peak q ops ≤ k) :
    ∀ q' ∈ states q ops, q'.Bounded k := by
  induction ops generalizing q with
  | nil => simpa using h
  | cons op ops ih =>
    rw [states_cons, List.forall_mem_cons]
    refine ⟨h, ?_⟩
    cases op with
    | push a =>
      obtain ⟨hlive, hmore⟩ := Nat.max_le.1 hpeak
      exact ih (h.push a hlive) hmore
    | pop => exact ih h.pop hpeak

theorem le_capacity_of_mem_states {ops : List (Op α)} {q' : Queue α} (h : q' ∈ states q ops) :
    q.capacity ≤ q'.capacity := by
  induction ops generalizing q with
  | nil =>
    rw [states_nil, List.mem_singleton] at h
    exact Nat.le_of_eq (congrArg Queue.capacity h.symm)
  | cons op ops ih =>
    rw [states_cons, List.mem_cons] at h
    rcases h with rfl | hmore
    · exact Nat.le_refl _
    · exact Nat.le_trans (q.capacity_le_step op) (ih hmore)

theorem after_mem_states (q : Queue α) (ops : List (Op α)) :
    Op.after step q ops ∈ states q ops := by
  induction ops generalizing q with
  | nil => exact List.mem_singleton_self q
  | cons op ops ih => exact List.mem_cons_of_mem q (ih (q.step op).2)

theorem pairwise_states (q : Queue α) (ops : List (Op α)) :
    (states q ops).Pairwise fun q q' => q.capacity ≤ q'.capacity := by
  induction ops generalizing q with
  | nil => simp
  | cons op ops ih =>
    rw [states_cons, List.pairwise_cons]
    refine ⟨?_, ih _⟩
    intro q' hmem
    exact Nat.le_trans (q.capacity_le_step op) (le_capacity_of_mem_states hmem)

/-- In a run on a new queue that never has more than `k` live items, the capacity never exceeds what
`k` items account for. It is a power of two times the initial capacity, and never shrinks. -/
theorem storage_bounded_by_peak (ops : List (Op α)) (hpeak : peak (∅ : Queue α) ops ≤ k) :
    (∀ q ∈ states (∅ : Queue α) ops,
      q.capacity ≤ max 4 (2 * k + 6) ∧ ∃ n, q.capacity = 4 * 2 ^ n) ∧
    (states (∅ : Queue α) ops).Pairwise fun q q' => q.capacity ≤ q'.capacity := by
  refine ⟨?_, pairwise_states _ ops⟩
  intro q hq
  have hbounded := (bounded_empty k).states hpeak q hq
  exact ⟨hbounded.le, hbounded.power⟩

end Runs

/-- A run that takes as much storage as its five live items admit. -/
theorem storage_bounded_by_peak_attained :
    let ops := (List.range 5).map .push ++ List.replicate 4 .pop ++ (List.range 4).map .push
    peak (∅ : Queue Nat) ops ≤ 5 ∧ (Op.after step (∅ : Queue Nat) ops).capacity = 2 * 5 + 6 ∧
      ∀ q ∈ states (∅ : Queue Nat) ops, q.capacity ≤ 2 * 5 + 6 := by
  intro ops
  have hpeak : peak (∅ : Queue Nat) ops ≤ 5 := by decide
  exact ⟨hpeak, by decide, fun q hq => ((storage_bounded_by_peak ops hpeak).1 q hq).1⟩

end ModalLexer.Queue
