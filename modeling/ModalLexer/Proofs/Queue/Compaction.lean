import ModalLexer.Proofs.Queue.Storage

/-! # The cost of reclaiming slots

A full buffer with more than four spent slots reclaims them, and then moves all its live items to
the front. Five pops pay for this, however many items are live. So a run moves at most a fifth of
its greatest number of live items with each operation, and there are runs that come near to it: no
constant bounds the number of items that an operation moves on average.
-/

namespace ModalLexer.Queue

variable {α : Type} {q : Queue α} {h s c k n : Nat}

/-- The live items that an operation moves within the buffer: all of them if a push brings the head
to the front, and none otherwise. -/
def moved (q : Queue α) : Op α → Nat
  | .push _ => if q.reserve.head = q.head then 0 else q.size
  | .pop => 0

/-- Each slot that is reclaimed pays for a fifth of the live items. -/
theorem moved_push_paid (a : α) (hlive : (q.push a).size ≤ k) :
    5 * q.moved (.push a) + k * (q.push a).head ≤ k * q.head := by
  have hpush : (q.push a).head = q.reserve.head := rfl
  rw [size_push] at hlive
  rw [moved, hpush]
  split
  · next hsame => simp [hsame]
  · next hmoved =>
    rcases q.reserve_cases with ⟨-, hsame⟩ | ⟨-, hspent, hhead, -⟩ | ⟨-, -, hhead, -⟩
    · exact absurd (by rw [hsame]) hmoved
    · rw [hhead, Nat.mul_zero, Nat.add_zero, Nat.mul_comm k]
      exact Nat.mul_le_mul hspent (by omega)
    · exact absurd hhead hmoved

variable [Inhabited α]

/-- The live items that the operations of a run move. -/
def movedInRun (q : Queue α) : List (Op α) → Nat
  | [] => 0
  | op :: ops => q.moved op + movedInRun (q.step op).2 ops

theorem movedInRun_append (q : Queue α) (ops more : List (Op α)) :
    movedInRun q (ops ++ more) = movedInRun q ops + movedInRun (Op.after step q ops) more := by
  induction ops generalizing q with
  | nil => simp [movedInRun, Op.after]
  | cons op ops ih =>
    have hafter : Op.after step q (op :: ops) = Op.after step (q.step op).2 ops := rfl
    rw [List.cons_append, movedInRun, movedInRun, ih, hafter, Nat.add_assoc]

theorem after_append (q : Queue α) (ops more : List (Op α)) :
    Op.after step q (ops ++ more) = Op.after step (Op.after step q ops) more :=
  List.foldl_append

theorem head_pop_le (q : Queue α) : (q.step .pop).2.head ≤ q.head + 1 := by
  simp only [step, pop?]
  split
  · next hpop =>
    split at hpop
    · cases hpop
      split <;> simp [advance]
    · cases hpop
  · exact Nat.le_succ _

/-- The slots that are spent when a run begins and those that it spends pay for the items that it
moves. -/
theorem movedInRun_le {ops : List (Op α)} (hpeak : peak q ops ≤ k) :
    5 * movedInRun q ops ≤ k * (q.head + ops.length) := by
  induction ops generalizing q with
  | nil => exact Nat.zero_le _
  | cons op ops ih =>
    cases op with
    | push a =>
      obtain ⟨hlive, hmore⟩ := Nat.max_le.1 hpeak
      have hpaid := moved_push_paid a hlive
      have hrest := ih hmore
      rw [movedInRun, step_push, List.length_cons]
      simp only [Nat.mul_add] at hrest hpaid ⊢
      omega
    | pop =>
      have hrest := ih (q := (q.step .pop).2) hpeak
      have hhead := Nat.mul_le_mul_left k (Nat.add_le_add_right q.head_pop_le ops.length)
      rw [movedInRun, moved, List.length_cons, Nat.zero_add]
      simp only [Nat.mul_add] at hrest hhead ⊢
      omega

/-- The slots of a queue, whatever they hold. -/
structure HasShape (q : Queue α) (head size capacity : Nat) : Prop where
  head : q.head = head
  size : q.buffer.size = size
  capacity : q.capacity = capacity

/-- Operations that move `m` items and leave a queue of the given shape. -/
structure Makes (q : Queue α) (ops : List (Op α)) (m head size capacity : Nat) : Prop where
  moved : movedInRun q ops = m
  shape : (Op.after step q ops).HasShape head size capacity

variable {ops more : List (Op α)} {m m' h' s' c' : Nat}

theorem Makes.append (hops : q.Makes ops m h s c)
    (hmore : ∀ {q' : Queue α}, q'.HasShape h s c → q'.Makes more m' h' s' c') :
    q.Makes (ops ++ more) (m + m') h' s' c' := by
  obtain ⟨hmoved, hshape⟩ := hmore hops.shape
  exact ⟨by rw [movedInRun_append, hops.moved, hmoved], by rwa [after_append]⟩

theorem HasShape.push (hq : q.HasShape h s c) (hroom : s < c) (a : α) :
    q.Makes [.push a] 0 h (s + 1) c := by
  obtain ⟨rfl, rfl, rfl⟩ := hq
  have hsame : q.reserve = q := by
    rw [reserve, if_neg (Nat.ne_of_lt hroom)]
  constructor
  · simp [movedInRun, moved, hsame]
  · constructor <;> simp [Op.after, Queue.push, hsame]

theorem HasShape.double (hq : q.HasShape 0 c c) (hc : initialCapacity ≤ c) (a : α) :
    q.Makes [.push a] 0 0 (c + 1) (2 * c) := by
  obtain ⟨hhead, hsize, hcapacity⟩ := hq
  rcases q.reserve_cases with ⟨hroom, -⟩ | ⟨-, hspent, -⟩ | ⟨-, -, hhead', hsize', hcapacity'⟩
  · exact absurd (hsize.trans hcapacity.symm) hroom
  · rw [hhead] at hspent
    exact absurd hspent (Nat.not_lt_zero _)
  · constructor
    · simp [movedInRun, moved, hhead']
    · constructor
      · simp [Op.after, Queue.push, hhead', hhead]
      · simp [Op.after, Queue.push, hsize', hsize]
      · simp [Op.after, Queue.push, hcapacity', hcapacity, Nat.max_eq_left hc, Nat.two_mul]

theorem HasShape.compact (hq : q.HasShape h c c) (hspent : initialCapacity < h) (a : α) :
    q.Makes [.push a] (c - h) 0 (c - h + 1) c := by
  obtain ⟨hhead, hsize, hcapacity⟩ := hq
  rcases q.reserve_cases with ⟨hroom, -⟩ | ⟨-, -, hhead', hsize', hcapacity'⟩ | ⟨-, hfew, -⟩
  · exact absurd (hsize.trans hcapacity.symm) hroom
  · have hlive : q.size = c - h := by rw [Queue.size, hsize, hhead]
    have hmoved : q.reserve.head ≠ q.head := by omega
    constructor
    · simp [movedInRun, moved, hmoved, hlive]
    · constructor
      · simp [Op.after, Queue.push, hhead']
      · simp [Op.after, Queue.push, hsize', hlive]
      · simp [Op.after, Queue.push, hcapacity', hcapacity]
  · rw [hhead] at hfew
    exact absurd hspent (Nat.not_lt.2 hfew)

theorem HasShape.pop (hq : q.HasShape h s c) (hlive : h + 1 < s) :
    q.Makes [.pop] 0 (h + 1) s c := by
  obtain ⟨rfl, rfl, rfl⟩ := hq
  have hlt : q.head < q.buffer.size := Nat.lt_of_succ_lt hlive
  have hpop : q.pop? = some (q.buffer[q.head], q.advance hlt) := by
    have hmore : (q.advance hlt).head ≠ (q.advance hlt).buffer.size := by
      simpa [advance] using Nat.ne_of_lt hlive
    simp only [pop?, dif_pos hlt, if_neg hmore]
  constructor
  · simp [movedInRun, moved]
  · constructor <;> simp [Op.after, step, hpop, advance]

theorem HasShape.pushes (hq : q.HasShape h s c) (n : Nat) (hn : s + n = s') (hroom : s' ≤ c)
    (a : α) : q.Makes (List.replicate n (.push a)) 0 h s' c := by
  induction n generalizing s' with
  | zero => exact hn ▸ ⟨rfl, hq⟩
  | succ n ih =>
    subst hn
    rw [List.replicate_succ']
    exact (ih rfl (by omega)).append fun hq' => hq'.push (by omega) a

theorem HasShape.pops (hq : q.HasShape h s c) (n : Nat) (hn : h + n = h') (hlive : h' < s) :
    q.Makes (List.replicate n .pop) 0 h' s c := by
  induction n generalizing h' with
  | zero => exact hn ▸ ⟨rfl, hq⟩
  | succ n ih =>
    subst hn
    rw [List.replicate_succ']
    exact (ih rfl (by omega)).append fun hq' => hq'.pop (by omega)

/-- Pushes alone fill a buffer of any capacity. -/
theorem makes_full (n : Nat) (a : α) :
    (∅ : Queue α).Makes (List.replicate (4 * 2 ^ n) (.push a)) 0 0 (4 * 2 ^ n) (4 * 2 ^ n) := by
  induction n with
  | zero => exact HasShape.pushes (s := 0) ⟨rfl, rfl, rfl⟩ 4 rfl (Nat.le_refl _) a
  | succ n ih =>
    have hinitial : initialCapacity ≤ 4 * 2 ^ n := Nat.le_mul_of_pos_right 4 (Nat.two_pow_pos n)
    have hdouble : 4 * 2 ^ (n + 1) = 2 * (4 * 2 ^ n) := by omega
    rw [hdouble]
    generalize 4 * 2 ^ n = c at ih hinitial
    have hpos : 0 < c := Nat.lt_of_lt_of_le (by decide) hinitial
    have hops : List.replicate (2 * c) (Op.push a)
        = List.replicate c (Op.push a) ++ ([Op.push a] ++ List.replicate (c - 1) (Op.push a)) := by
      rw [List.singleton_append, ← List.replicate_succ, List.replicate_append_replicate]
      congr 1
      omega
    have hmore : ∀ {q : Queue α}, q.HasShape 0 c c →
        q.Makes ([Op.push a] ++ List.replicate (c - 1) (Op.push a)) 0 0 (2 * c) (2 * c) :=
      fun hfull => (hfull.double hinitial a).append fun hq =>
        hq.pushes (c - 1) (by omega) (Nat.le_refl _) a
    rw [hops]
    exact ih.append hmore

/-- Five pops and five pushes. -/
def turnover (a : α) : List (Op α) :=
  List.replicate 5 Op.pop ++ ([Op.push a] ++ List.replicate 4 (Op.push a))

/-- On a full buffer the first of the five pushes moves all items that have not been popped. -/
theorem HasShape.turnover (hq : q.HasShape 0 c c) (hc : 5 < c) (a : α) :
    q.Makes (turnover a) (c - 5) 0 c c := by
  have hpushes : ∀ {q : Queue α}, q.HasShape 5 c c →
      q.Makes ([Op.push a] ++ List.replicate 4 (Op.push a)) (c - 5) 0 c c := fun hspent =>
    (hspent.compact (by decide) a).append fun hq => hq.pushes 4 (by omega) (Nat.le_refl _) a
  have hall := (hq.pops 5 (by omega) hc).append hpushes
  rwa [Nat.zero_add] at hall

/-- A full buffer with its items replaced `m` times by fives. -/
def turnovers (a : α) (m : Nat) : List (Op α) := (List.replicate m (turnover a)).flatten

theorem HasShape.turnovers (hq : q.HasShape 0 c c) (hc : 5 < c) (a : α) (m : Nat) :
    q.Makes (turnovers a m) (m * (c - 5)) 0 c c := by
  induction m with
  | zero => exact ⟨by simp [Queue.turnovers, movedInRun], hq⟩
  | succ m ih =>
    rw [Queue.turnovers, List.replicate_succ', List.flatten_append, List.flatten_singleton,
      Nat.succ_mul]
    exact ih.append fun hq' => hq'.turnover hc a

/-- A run that fills a buffer and then turns its items over `m` times. -/
def costlyRun (a : α) (n m : Nat) : List (Op α) :=
  List.replicate (4 * 2 ^ n) (Op.push a) ++ turnovers a m

omit [Inhabited α] in
theorem length_costlyRun (a : α) (n m : Nat) :
    (costlyRun a n m).length = 4 * 2 ^ n + 10 * m := by
  have hturnover : (turnover a).length = 10 := rfl
  simp [costlyRun, turnovers, hturnover, Nat.mul_comm]

theorem makes_costlyRun (a : α) (n m : Nat) : (∅ : Queue α).Makes (costlyRun a (n + 1) m)
    (m * (8 * 2 ^ n - 5)) 0 (8 * 2 ^ n) (8 * 2 ^ n) := by
  have hc : 4 * 2 ^ (n + 1) = 8 * 2 ^ n := by omega
  have hlarge : 5 < 8 * 2 ^ n := by
    have hpos := Nat.two_pow_pos n
    omega
  have hfull := makes_full (n + 1) a
  rw [costlyRun, ← Nat.zero_add (m * _)]
  rw [hc] at hfull ⊢
  exact hfull.append fun hq => hq.turnovers hlarge a m

/-- What is live at a time fits into the capacity that a run ends with. -/
theorem peak_le_capacity (hq : q.Compact) : peak q ops ≤ (Op.after step q ops).capacity := by
  induction ops generalizing q with
  | nil => exact Nat.zero_le _
  | cons op ops ih =>
    have hmore := ih (hq.step op)
    cases op with
    | push a =>
      have hfits : (q.push a).size ≤ (q.push a).capacity :=
        Nat.le_trans (Nat.sub_le _ _) (hq.push a).fits
      have hlast := le_capacity_of_mem_states (after_mem_states (q.push a) ops)
      exact Nat.max_le.2 ⟨Nat.le_trans hfits hlast, hmore⟩
    | pop => exact hmore

/-- A run on a new queue moves, with each operation, at most a fifth of the greatest number of live
items on average. For capacities of any size there are runs of any length within this capacity that,
once the buffer is full, move all but five of its items with every ten operations. -/
theorem compaction_costs_live_items :
    (∀ ops : List (Op α),
      5 * movedInRun (∅ : Queue α) ops ≤ peak (∅ : Queue α) ops * ops.length) ∧
    ∀ n m, ∃ ops : List (Op α), ops.length = 8 * 2 ^ n + 10 * m ∧
      peak (∅ : Queue α) ops ≤ 8 * 2 ^ n ∧
      movedInRun (∅ : Queue α) ops = m * (8 * 2 ^ n - 5) := by
  constructor
  · intro ops
    have hpaid := movedInRun_le (q := (∅ : Queue α)) (Nat.le_refl (peak ∅ ops))
    have hhead : (∅ : Queue α).head = 0 := rfl
    rwa [hhead, Nat.zero_add] at hpaid
  · intro n m
    have hrun := makes_costlyRun (default : α) n m
    refine ⟨costlyRun default (n + 1) m, ?_, ?_, hrun.moved⟩
    · rw [length_costlyRun]
      omega
    · exact hrun.shape.capacity ▸ peak_le_capacity compact_empty

/-- No constant bounds what an operation moves on average. -/
theorem no_constant_pays_for_compaction :
    ¬ ∃ c : Nat, ∀ ops : List (Op Nat),
      movedInRun (∅ : Queue Nat) ops ≤ c * ops.length := by
  rintro ⟨c, hall⟩
  -- As many turnovers as there are slots, so filling the buffer takes one operation for each.
  let slots := 8 * 2 ^ (11 * c)
  have hle := hall (costlyRun 0 (11 * c + 1) slots)
  rw [(makes_costlyRun 0 (11 * c) slots).moved, length_costlyRun] at hle
  have hoperations : c * (4 * 2 ^ (11 * c + 1) + 10 * slots) = slots * (11 * c) := by
    have hsum : 4 * 2 ^ (11 * c + 1) + 10 * slots = slots * 11 := by omega
    rw [hsum, Nat.mul_left_comm, Nat.mul_comm c]
  have hlarge : 11 * c + 5 < slots := by
    have hpow : 11 * c < 2 ^ (11 * c) := Nat.lt_two_pow_self
    omega
  rw [hoperations] at hle
  have hcycle : slots - 5 ≤ 11 * c := Nat.le_of_mul_le_mul_left hle (by omega)
  omega

end ModalLexer.Queue
