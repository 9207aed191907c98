import Mathlib.Data.List.Forall2
import ModalLexer.Queue

/-! # Runs of a queue

A run is a sequence of pushes and pops on a new queue. Whatever the buffer does in the course of it,
the queue answers as a list does that is extended at its end and loses its front. What is popped and
what is left are, in this order, what was pushed.
-/

namespace ModalLexer.Queue

variable {α σ : Type} {q : Queue α} {l : List α}

inductive Op (α : Type) where
  | push (a : α)
  | pop
deriving DecidableEq, Repr

/-- What an operation answers, and what it leaves. A push answers nothing, and so does a pop from an
empty queue. -/
def step [Inhabited α] (q : Queue α) : Op α → Option α × Queue α
  | .push a => (none, q.push a)
  | .pop =>
    match q.pop? with
    | some (a, rest) => (some a, rest)
    | none => (none, q)

namespace Op

/-- The operation on a plain list. -/
def onList (l : List α) : Op α → Option α × List α
  | push a => (none, l ++ [a])
  | pop => (l.head?, l.tail)

/-- The answers of a run with what is left behind each operation. -/
def runs (step : σ → Op α → Option α × σ) (s : σ) : List (Op α) → List (Option α × σ)
  | [] => []
  | op :: ops => step s op :: runs step (step s op).2 ops

/-- What a run leaves. -/
def after (step : σ → Op α → Option α × σ) (s : σ) (ops : List (Op α)) : σ :=
  ops.foldl (fun s op => (step s op).2) s

def item? : Op α → Option α
  | push a => some a
  | pop => none

/-- The items that a run pushes, in order. -/
def pushed (ops : List (Op α)) : List α := ops.filterMap item?

/-- The items that a run pops, in order. -/
def popped (step : σ → Op α → Option α × σ) (s : σ) (ops : List (Op α)) : List α :=
  (runs step s ops).filterMap Prod.fst

end Op

/-- The head is at an item unless there is nothing in the buffer, and the buffer is no longer than
its capacity. -/
structure Compact (q : Queue α) : Prop where
  head : q.head < q.buffer.size ∨ q.head = 0 ∧ q.buffer.size = 0
  fits : q.buffer.size ≤ q.capacity

theorem compact_empty : (∅ : Queue α).Compact :=
  ⟨.inr ⟨rfl, rfl⟩, Nat.zero_le _⟩

/-- There is room in the buffer after a reservation. -/
theorem reserve_room (h : q.Compact) : q.reserve.buffer.size < q.reserve.capacity := by
  have hfits := h.fits
  have hhead := q.head_le
  have hcapacity : 0 < max q.capacity initialCapacity := by
    have hinitial : 0 < initialCapacity := by decide
    omega
  unfold reserve
  split
  · split
    · next hspent =>
      simp only [Array.size_extract]
      omega
    · simp only
      omega
  · omega

theorem Compact.push (h : q.Compact) (a : α) : (q.push a).Compact := by
  have hroom := reserve_room h
  have hhead := q.reserve.head_le
  constructor
  · left
    simp only [Queue.push, Array.size_push]
    omega
  · simp only [Queue.push, Array.size_push]
    omega

theorem Compact.pop? [Inhabited α] {a : α} {rest : Queue α} (h : q.Compact)
    (hpop : q.pop? = some (a, rest)) : rest.Compact := by
  have hfits := h.fits
  simp only [Queue.pop?] at hpop
  split at hpop
  · next hlt =>
    simp only [Option.some.injEq, Prod.mk.injEq] at hpop
    obtain ⟨-, rfl⟩ := hpop
    split
    · exact ⟨.inr ⟨rfl, rfl⟩, Nat.zero_le _⟩
    · next hlast =>
      simp only [advance, Array.size_set] at hlast ⊢
      constructor
      · left
        simp only [Array.size_set]
        omega
      · simpa using hfits
  · cases hpop

/-- The queue holds the items of the list, and nothing else of it can be seen. -/
structure Holds (q : Queue α) (l : List α) : Prop where
  live : q.buffer.toList.drop q.head = l
  size : q.size = l.length
  isEmpty : q.isEmpty = l.isEmpty
  compact : q.Compact

theorem holds_of_toList (hlist : q.toList = l) (hcompact : q.Compact) : q.Holds l := by
  subst hlist
  refine ⟨rfl, length_toList.symm, ?_, hcompact⟩
  rw [Bool.eq_iff_iff, isEmpty_iff, List.isEmpty_iff]

/-- An operation on the queue answers as on the list, and the queue behind it holds the items of the
list behind it. -/
structure Mirrors (p : Option α × Queue α) (p' : Option α × List α) : Prop where
  answer : p.1 = p'.1
  holds : p.2.Holds p'.2

theorem Holds.step [Inhabited α] (h : q.Holds l) (op : Op α) :
    Mirrors (q.step op) (op.onList l) := by
  have hlist : q.toList = l := h.live
  cases op with
  | push a =>
    refine ⟨rfl, holds_of_toList ?_ (h.compact.push a)⟩
    rw [Queue.step, toList_push, hlist]
    rfl
  | pop =>
    unfold Queue.step
    cases hpop : q.pop? with
    | none =>
      have hnil : l = [] := hlist ▸ pop?_eq_none_iff.1 hpop
      subst hnil
      exact ⟨rfl, h⟩
    | some p =>
      obtain ⟨a, rest⟩ := p
      have hcons : l = a :: rest.toList := hlist ▸ toList_of_pop? hpop
      subst hcons
      exact ⟨rfl, holds_of_toList rfl (h.compact.pop? hpop)⟩

theorem Holds.runs [Inhabited α] (h : q.Holds l) (ops : List (Op α)) :
    List.Forall₂ Mirrors (Op.runs Queue.step q ops) (Op.runs Op.onList l ops) := by
  induction ops generalizing q l with
  | nil => exact .nil
  | cons op ops ih =>
    have hstep := h.step op
    exact .cons hstep (ih hstep.holds)

/-- What was there and what an operation pushes is what it pops and what it leaves. -/
theorem step_append [Inhabited α] (q : Queue α) (op : Op α) :
    (q.step op).1.toList ++ (q.step op).2.toList = q.toList ++ op.item?.toList := by
  cases op with
  | push a => simp [step, Op.item?]
  | pop =>
    unfold step
    cases hpop : q.pop? with
    | none => simp [Op.item?]
    | some p =>
      have hlist := toList_of_pop? hpop
      simp [Op.item?, hlist]

theorem popped_append [Inhabited α] (q : Queue α) (ops : List (Op α)) :
    Op.popped step q ops ++ (Op.after step q ops).toList = q.toList ++ Op.pushed ops := by
  induction ops generalizing q with
  | nil => simp [Op.popped, Op.runs, Op.after, Op.pushed]
  | cons op ops ih =>
    have hpopped : Op.popped step q (op :: ops)
        = (q.step op).1.toList ++ Op.popped step (q.step op).2 ops := by
      rw [Op.popped, Op.runs, List.filterMap_cons]
      cases (q.step op).1 <;> rfl
    have hpushed : Op.pushed (op :: ops) = op.item?.toList ++ Op.pushed ops := by
      rw [Op.pushed, List.filterMap_cons]
      cases op.item? <;> rfl
    have hafter : Op.after step q (op :: ops) = Op.after step (q.step op).2 ops := by
      rw [Op.after, List.foldl_cons]
      rfl
    calc
      _ = (q.step op).1.toList ++
            (Op.popped step (q.step op).2 ops ++ (Op.after step (q.step op).2 ops).toList) := by
        rw [hpopped, hafter, List.append_assoc]
      _ = ((q.step op).1.toList ++ (q.step op).2.toList) ++ Op.pushed ops := by
        rw [ih, List.append_assoc]
      _ = q.toList ++ Op.pushed (op :: ops) := by
        rw [step_append, hpushed, List.append_assoc]

/-- Any run on a new queue answers as on the empty list, and after each of its operations the queue
holds the items of the list. What is popped comes out in the order in which it was pushed, and a pop
finds nothing exactly if all that was pushed has been popped. -/
theorem runs_are_fifo [Inhabited α] (ops : List (Op α)) :
    List.Forall₂ Mirrors (Op.runs step (∅ : Queue α) ops) (Op.runs Op.onList [] ops) ∧
      Op.pushed ops = Op.popped step (∅ : Queue α) ops ++ (Op.after step (∅ : Queue α) ops).toList ∧
      ((Op.after step (∅ : Queue α) ops).pop? = none ↔
        Op.popped step (∅ : Queue α) ops = Op.pushed ops) := by
  have hempty : (∅ : Queue α).Holds [] := holds_of_toList rfl compact_empty
  have hpopped := popped_append (∅ : Queue α) ops
  rw [toList_empty, List.nil_append] at hpopped
  refine ⟨hempty.runs ops, hpopped.symm, ?_⟩
  rw [pop?_eq_none_iff, ← hpopped, List.self_eq_append_right]

/-- A buffer that has grown once drops five spent slots to make room. -/
example :
    let q := Op.after step (∅ : Queue Nat)
      ((List.range 8).map .push ++ List.replicate 5 .pop ++ [.push 8])
    (q.toList, q.head, q.buffer.size, q.capacity) = ([5, 6, 7, 8], 0, 4, 8) := by decide

end ModalLexer.Queue
