/-! # A queue in one buffer

Items are pushed at the end of a buffer and popped at its head; popped slots stay in front of the
head, with the default item in them. A full buffer first reclaims these slots, and grows only if
they are few. The view of a queue is `toList`, its live items, oldest first.
-/

namespace ModalLexer

/-- A first-in first-out queue over a buffer of `capacity` slots, of which those before `head` are
spent. -/
structure Queue (α : Type) where
  buffer : Array α := #[]
  head : Nat := 0
  capacity : Nat := 4
  head_le : head ≤ buffer.size := by exact Nat.zero_le _

namespace Queue

variable {α : Type}

/-- The capacity of a new queue, and the number of spent slots too few to be worth reclaiming. -/
def initialCapacity : Nat := 4

def empty : Queue α := { capacity := initialCapacity }

instance : EmptyCollection (Queue α) := ⟨empty⟩

/-- The live items, oldest first. -/
def toList (q : Queue α) : List α := q.buffer.toList.drop q.head

def size (q : Queue α) : Nat := q.buffer.size - q.head

def isEmpty (q : Queue α) : Bool := q.size = 0

/-- Makes room for one more item: a full buffer drops its spent slots, or doubles if these are
few. -/
def reserve (q : Queue α) : Queue α :=
  if q.buffer.size = q.capacity then
    if initialCapacity < q.head then
      { q with
        buffer := q.buffer.extract q.head q.buffer.size, head := 0, head_le := Nat.zero_le _ }
    else { q with capacity := q.capacity + max q.capacity initialCapacity }
  else q

def push (q : Queue α) (a : α) : Queue α :=
  let q := q.reserve
  { q with
    buffer := q.buffer.push a
    head_le := by simpa using Nat.le_succ_of_le q.head_le }

/-- Leaves the default item in the slot of the oldest item and moves the head behind it. -/
def advance [Inhabited α] (q : Queue α) (h : q.head < q.buffer.size) : Queue α :=
  { q with
    buffer := q.buffer.set q.head default
    head := q.head + 1
    head_le := by simpa using Nat.succ_le_of_lt h }

/-- Removes the oldest item. A queue that becomes empty starts over at the front of its buffer. -/
def pop? [Inhabited α] (q : Queue α) : Option (α × Queue α) :=
  if h : q.head < q.buffer.size then
    let rest := q.advance h
    let rest :=
      if rest.head = rest.buffer.size then
        { rest with buffer := #[], head := 0, head_le := Nat.zero_le _ }
      else rest
    some (q.buffer[q.head], rest)
  else none

variable {q rest : Queue α} {a : α}

@[simp] theorem toList_empty : (∅ : Queue α).toList = [] := rfl

@[simp] theorem length_toList : q.toList.length = q.size := by
  simp [toList, size]

theorem toList_reserve : q.reserve.toList = q.toList := by
  simp only [reserve]
  split
  · split
    · have : (q.buffer.toList.drop q.head).length ≤ q.buffer.size - q.head := by simp
      simp [toList, List.take_of_length_le this]
    · rfl
  · rfl

@[simp] theorem toList_push : (q.push a).toList = q.toList ++ [a] := by
  have hle : q.reserve.head ≤ q.reserve.buffer.toList.length := by
    simpa using q.reserve.head_le
  simp only [push, toList, Array.toList_push, List.drop_append_of_le_length hle]
  exact congrArg (· ++ [a]) toList_reserve

theorem isEmpty_iff : q.isEmpty = true ↔ q.toList = [] := by
  rw [← List.length_eq_zero_iff, length_toList, isEmpty, decide_eq_true_eq]

/-- The default item that an advance leaves is in front of the head. -/
theorem toList_advance [Inhabited α] (h : q.head < q.buffer.size) :
    q.toList = q.buffer[q.head] :: (q.advance h).toList := by
  have hlist : q.head < q.buffer.toList.length := by simpa using h
  simp only [toList, advance, Array.toList_set]
  rw [List.drop_set_of_lt (Nat.lt_succ_self q.head), List.drop_eq_getElem_cons hlist,
    Array.getElem_toList]

theorem pop?_eq_none_iff [Inhabited α] : q.pop? = none ↔ q.toList = [] := by
  simp only [pop?, toList]
  split
  · next h => simp; omega
  · next h => simp; omega

theorem toList_of_pop? [Inhabited α] (h : q.pop? = some (a, rest)) :
    q.toList = a :: rest.toList := by
  simp only [pop?] at h
  split at h
  · next hlt =>
    simp only [Option.some.injEq, Prod.mk.injEq] at h
    obtain ⟨rfl, rfl⟩ := h
    rw [toList_advance hlt]
    split
    · next hlast =>
      -- A queue that starts over has no live items, and neither has one with all slots spent.
      have hspent : (q.advance hlt).toList = [] := by
        rw [toList, hlast]
        exact List.drop_eq_nil_of_le (by simp)
      rw [hspent]
      rfl
    · rfl
  · cases h

end Queue

end ModalLexer
