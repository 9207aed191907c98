import ModalLexer.Rule.Action

/-! # Actions one after the other

A composed action has one of two forms: a sequence on the left is extended at its end, and any other
action becomes the first of two in a new sequence. Both run the two parts in order, so the way in
which parts are put together cannot be seen when they run.
-/

namespace ModalLexer

variable {ε : Type}

namespace Outcome

/-- Goes on with `next` in the state that has been left, unless the rule was interrupted. -/
def andThen (o : Outcome ε) (next : State ε → Outcome ε) : Outcome ε :=
  match o with
  | (.ok _, s) => next s
  | (.error e, s) => (.error e, s)

@[simp] theorem andThen_ok (fired : Bool) (s : State ε) (next : State ε → Outcome ε) :
    andThen (.ok fired, s) next = next s := rfl

@[simp] theorem andThen_error (e : Interruption) (s : State ε) (next : State ε → Outcome ε) :
    andThen (.error e, s) next = (.error e, s) := rfl

theorem andThen_assoc (o : Outcome ε) (next last : State ε → Outcome ε) :
    (o.andThen next).andThen last = o.andThen fun s => (next s).andThen last := by
  obtain ⟨result, s⟩ := o
  cases result <;> rfl

end Outcome

namespace Action

variable {captures : Pattern.Captures} {s : State ε} {first next : Action ε}

theorem execAll_append (fired : Bool) (actions more : List (Action ε)) (s : State ε) :
    execAll captures fired (actions ++ more) s =
      match execAll captures fired actions s with
      | (.ok fired, s) => execAll captures fired more s
      | (.error e, s) => (.error e, s) := by
  induction actions generalizing fired s with
  | nil => rfl
  | cons action actions ih =>
    simp only [List.cons_append, execAll]
    split
    · exact ih _ _
    · rfl

/-- The result so far is forgotten for the one of the action. -/
theorem execAll_singleton (fired : Bool) :
    execAll captures fired [next] s = next.exec captures s := by
  simp only [execAll]
  split <;> simp_all

/-- The actions that a composition extends on its left. -/
def parts : Action ε → List (Action ε)
  | sequence actions => actions
  | action => [action]

theorem andThen_eq_sequence (first next : Action ε) :
    first.andThen next = sequence (first.parts ++ [next]) := by
  cases first <;> rfl

/-- An action does what its parts do in order. -/
theorem execAll_parts (first : Action ε) :
    execAll captures false first.parts s = first.exec captures s := by
  cases first with
  | sequence actions => rw [parts, exec]
  | emit | score | enter | exit | custom => exact execAll_singleton false

/-- A composed action runs its parts in order, and has the result of the second. -/
theorem exec_andThen :
    (first.andThen next).exec captures s
      = (first.exec captures s).andThen (next.exec captures) := by
  rw [andThen_eq_sequence, exec, execAll_append, execAll_parts]
  obtain ⟨result, s'⟩ := first.exec captures s
  cases result with
  | ok fired => exact execAll_singleton fired
  | error e => rfl

/-- A composition on the left is extended, one on the right stays an action of its own. -/
theorem andThen_ne_andThen (a b c : Action ε) :
    (a.andThen b).andThen c ≠ a.andThen (b.andThen c) := by
  intro h
  simp only [andThen_eq_sequence, parts, sequence.injEq, List.append_assoc,
    List.append_cancel_left_eq] at h
  have hlength := congrArg List.length h
  simp at hlength

/-- In every state, a composed action does what its first part does, and then, unless that was
interrupted, what its second part does, whose result it has. If the first part is interrupted, its
effects stay and the second part is not run. So three actions do the same in both ways of composing
them, and these are never the same action. -/
theorem composition_runs_in_order (captures : Pattern.Captures) (a b c : Action ε) :
    (∀ s, (a.andThen b).exec captures s = (a.exec captures s).andThen (b.exec captures)) ∧
      (∀ s, ((a.andThen b).andThen c).exec captures s
        = (a.andThen (b.andThen c)).exec captures s) ∧
      (a.andThen b).andThen c ≠ a.andThen (b.andThen c) := by
  refine ⟨fun s => exec_andThen, fun s => ?_, andThen_ne_andThen a b c⟩
  calc ((a.andThen b).andThen c).exec captures s
      = ((a.exec captures s).andThen (b.exec captures)).andThen (c.exec captures) := by
        rw [exec_andThen, exec_andThen]
    _ = (a.exec captures s).andThen fun s => (b.exec captures s).andThen (c.exec captures) :=
        Outcome.andThen_assoc _ _ _
    _ = (a.exec captures s).andThen ((b.andThen c).exec captures) := by
        congr 1
        funext s
        exact exec_andThen.symm
    _ = (a.andThen (b.andThen c)).exec captures s := exec_andThen.symm

end Action

end ModalLexer
