import ModalLexer.Proofs.Rule.SingleEmission

/-! # Flat actions

A flat action is a single step, or a sequence of steps of which the first alone may be an emission.
A rule with such an action that declines leaves the state as it was: either its pattern does not
match, or the action is nothing but an emission and the match is empty.
-/

namespace ModalLexer

variable {ε : Type}

namespace Action

open TokenType (NotStop)

/-- A step, or a sequence of steps of which no other than the first is an emission. No type that is
named is a stop. -/
inductive Flat : Action ε → Prop
  | step {action : Action ε} (h : action.IsStep NotStop) : Flat action
  | sequence {first : Action ε} {more : List (Action ε)} (hfirst : first.IsStep NotStop)
    (hmore : ∀ step ∈ more, step.IsStep NotStop ∧ step.emits = false) :
    Flat (.sequence (first :: more))

variable {named : TokenType → Prop} {action step : Action ε} {actions : List (Action ε)}
  {captures : Pattern.Captures} {s s' : State ε} {e : RuleError} {fired : Bool}

theorem IsStep.steps_eq (h : step.IsStep named) : step.steps = [step] ∧ step.endsIdle = false := by
  cases step with
  | emit | score | enter | exit => exact ⟨rfl, rfl⟩
  | sequence | custom => exact h.elim

theorem stepsAll_of_steps (h : ∀ step ∈ actions, step.IsStep named) :
    stepsAll actions = actions ∧ endsIdleAll false actions = false := by
  induction actions with
  | nil => exact ⟨rfl, rfl⟩
  | cons step actions ih =>
    obtain ⟨hsteps, hidle⟩ := (h step List.mem_cons_self).steps_eq
    obtain ⟨hmore, hlast⟩ := ih fun a ha => h a (List.mem_cons_of_mem _ ha)
    exact ⟨by rw [stepsAll, hsteps, hmore]; rfl, by rw [endsIdleAll, hidle, hlast]⟩

theorem Flat.steps_eq (h : action.Flat) :
    ∃ first more, action.steps = first :: more ∧ first.IsStep NotStop ∧
      (∀ step ∈ more, step.IsStep NotStop ∧ step.emits = false) ∧ action.endsIdle = false ∧
      (action = first ∧ more = [] ∨ action = .sequence (first :: more)) := by
  cases h with
  | step h => exact ⟨action, [], h.steps_eq.1, h, by simp, h.steps_eq.2, .inl ⟨rfl, rfl⟩⟩
  | @sequence first more hfirst hmore =>
    have hall : ∀ step ∈ first :: more, step.IsStep NotStop := by
      simpa using ⟨hfirst, fun step hstep => (hmore step hstep).1⟩
    obtain ⟨hsteps, hidle⟩ := stepsAll_of_steps hall
    exact ⟨first, more, hsteps, hfirst, hmore, hidle, .inr rfl⟩

theorem Flat.tidy (h : action.Flat) : action.Tidy := by
  obtain ⟨first, more, hsteps, hfirst, hmore, hidle, -⟩ := h.steps_eq
  refine ⟨?_, ?_, hidle⟩
  · intro step hstep
    rw [hsteps] at hstep
    rcases List.mem_cons.1 hstep with rfl | hmem
    · exact hfirst
    · exact (hmore step hmem).1
  · have hnone : more.filter emits = [] := by
      rw [List.filter_eq_nil_iff]
      intro step hstep
      simp [(hmore step hstep).2]
    rw [hsteps, List.filter_cons]
    split <;> simp [hnone]

/-- The step cannot be taken: an emission does not fit the groups of the match, the mode to enter
does not exist, or there is no mode to return to. -/
inductive Refused (captures : Pattern.Captures) (s : State ε) : Action ε → RuleError → Prop
  | emit {kinds : List TokenType} {e : RuleError} (h : emission kinds captures = .error e) :
    Refused captures s (.emit kinds) e
  | enter {mode : String} (h : mode ∉ s.modeNames) :
    Refused captures s (.enter mode) (.unknownMode s.grammar mode)
  | exit (h : s.stack = []) : Refused captures s .exit .emptyModeStack

/-- The steps of the action are taken from the state `s`, up to one that is refused in `s'`. -/
def Fails (captures : Pattern.Captures) (action : Action ε) (s s' : State ε) (e : RuleError) :
    Prop :=
  ∃ before step after fired, action.steps = before ++ step :: after ∧
    execAll captures true before s = (.ok fired, s') ∧ Refused captures s' step e

theorem refused_of_exec (hstep : step.IsStep named)
    (h : step.exec captures s = (.error (.error e), s')) : s' = s ∧ Refused captures s step e := by
  cases step with
  | sequence | custom => exact hstep.elim
  | score => cases h
  | emit kinds =>
    simp only [exec] at h
    split at h
    · next hemission => cases h; exact ⟨rfl, .emit hemission⟩
    · cases h
    · rcases emitAll_result h with hok | ⟨f, hfault⟩
      · cases hok
      · cases hfault
  | enter mode =>
    simp only [exec, State.enter] at h
    cases hidx : s.modeNames.idxOf? mode with
    | some i => simp [hidx] at h
    | none =>
      simp only [hidx] at h
      cases h
      exact ⟨rfl, .enter (List.idxOf?_eq_none_iff.1 hidx)⟩
  | exit =>
    simp only [exec, State.exit] at h
    cases hstack : s.stack with
    | cons mode stack => simp [hstack] at h
    | nil =>
      simp only [hstack] at h
      cases h
      exact ⟨rfl, .exit hstack⟩

theorem fails_of_execAll {all : List (Action ε)} (hall : ∀ step ∈ all, step.IsStep named)
    (h : execAll captures fired all s = (.error (.error e), s')) :
    ∃ before step after fired', all = before ++ step :: after ∧
      execAll captures fired before s = (.ok fired', s') ∧ Refused captures s' step e := by
  induction all generalizing fired s with
  | nil => cases h
  | cons step all ih =>
    simp only [execAll] at h
    split at h
    · next fired₁ s₁ hstep =>
      obtain ⟨before, failed, after, fired', rfl, hbefore, hrefused⟩ :=
        ih (fun a ha => hall a (List.mem_cons_of_mem _ ha)) h
      exact ⟨step :: before, failed, after, fired', rfl, by simp only [execAll, hstep, hbefore],
        hrefused⟩
    · next i s₁ hstep =>
      cases h
      obtain ⟨rfl, hrefused⟩ := refused_of_exec (hall step List.mem_cons_self) hstep
      exact ⟨[], step, all, fired, rfl, rfl, hrefused⟩

theorem Declarative.fails (haction : action.Declarative named)
    (h : action.exec captures s = (.error (.error e), s')) : action.Fails captures s s' e := by
  have hsteps := exec_eq_steps captures true action s
  rw [h] at hsteps
  cases hall : execAll captures true action.steps s with
  | mk result s₁ =>
    rw [hall] at hsteps
    cases result with
    | ok => cases hsteps
    | error i => cases hsteps; exact fails_of_execAll haction hall

end Action

namespace CompiledRule

variable {p : Pattern} {action : Action ε} {s s' : State ε} {result : Except Interruption Bool}

/-- The pattern of the rule does not match, or the action is an emission and the match is empty. -/
def PassesOver (r : CompiledRule ε) (t : Text) : Prop :=
  ∃ p action, r = .pattern p action ∧
    (p.search t = none ∨ ∃ captures kinds, p.search t = some captures ∧ captures.span = ⟨0, 0⟩ ∧
      (action = .emit kinds ∨ action = .sequence [.emit kinds]))

/-- A flat rule that declines has changed nothing. -/
theorem passesOver_of_declined (haction : action.Flat)
    (h : (pattern p action).exec s = (.ok false, s')) :
    s' = s ∧ (pattern p action).PassesOver s.text := by
  cases hsearch : p.search s.text with
  | none =>
    simp only [exec, hsearch] at h
    cases h
    exact ⟨rfl, p, action, rfl, .inl hsearch⟩
  | some captures =>
    simp only [exec, hsearch] at h
    have hc := Pattern.search_lieIn hsearch
    obtain ⟨first, more, hsteps, -, hmore, hidle, haction'⟩ := haction.steps_eq
    rcases Action.cases_of_declined haction.tidy.declarative hc h with
      hidle' | ⟨-, hempty, ⟨before, kinds, hlast⟩, fired, hset⟩
    · rw [hidle] at hidle'
      cases hidle'
    · -- The emission that comes last is the first step, so it is the only one.
      obtain ⟨rfl, rfl⟩ : first = .emit kinds ∧ more = [] := by
        rw [hsteps] at hlast
        cases before with
        | nil => exact List.cons.inj hlast
        | cons a before =>
          obtain ⟨-, rfl⟩ := List.cons.inj hlast
          cases (hmore (.emit kinds) (by simp)).2
      rw [Action.settings, hsteps] at hset
      cases hset
      refine ⟨rfl, p, action, rfl, .inr ⟨captures, kinds, hsearch, hc.span_eq_zero hempty, ?_⟩⟩
      rcases haction' with ⟨rfl, -⟩ | rfl
      · exact .inl rfl
      · exact .inr rfl

end CompiledRule

end ModalLexer
