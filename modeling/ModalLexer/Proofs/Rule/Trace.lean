import ModalLexer.Proofs.Engine.Transfer
import ModalLexer.Proofs.Rule.Cutting

/-! # What a rule leaves that does not fire

An action without procedures is a tree whose leaves are emissions and changes of score and mode. It
runs these steps from left to right, and fires as the last of them does. Nothing takes back what the
steps before it have done, so a rule that does not fire may leave a trace: the score and the mode of
an action whose last step is the emission of an empty match, and everything that an action does
before it ends in a sequence of no actions.
-/

namespace ModalLexer

variable {ε : Type} {named : TokenType → Prop}

/-- The outcome of an action, with the result replaced if the action ends `idle`. -/
def Outcome.veil (idle : Bool) (o : Outcome ε) : Outcome ε :=
  (o.1.map fun fired => !idle && fired, o.2)

namespace Action

mutual

/-- What the action runs, in order, apart from sequences. -/
def steps : Action ε → List (Action ε)
  | sequence actions => stepsAll actions
  | action => [action]

def stepsAll : List (Action ε) → List (Action ε)
  | [] => []
  | action :: actions => steps action ++ stepsAll actions

end

mutual

/-- Whether the action ends in a sequence of no actions. -/
def endsIdle : Action ε → Bool
  | sequence actions => endsIdleAll true actions
  | _ => false

/-- Whether the last of the actions ends idle, where `idle` is the answer if there is none. -/
def endsIdleAll (idle : Bool) : List (Action ε) → Bool
  | [] => idle
  | action :: actions => endsIdleAll (endsIdle action) actions

end

def emits : Action ε → Bool
  | emit _ => true
  | _ => false

/-- The steps that change the score or the mode. -/
def settings (action : Action ε) : List (Action ε) := action.steps.filter (!·.emits)

/-- An emission under types that satisfy `named`, or a change of the score or the mode. -/
def IsStep (named : TokenType → Prop) : Action ε → Prop
  | emit kinds => ∀ kind ∈ kinds, named kind
  | score _ | enter _ | exit => True
  | sequence _ | custom _ => False

/-- The action is put together from emissions under types that satisfy `named` and from changes of
the score and the mode. -/
def Declarative (named : TokenType → Prop) (action : Action ε) : Prop :=
  ∀ step ∈ action.steps, step.IsStep named

instance [DecidablePred named] : DecidablePred (IsStep named : Action ε → Prop) := fun
  | emit kinds => inferInstanceAs (Decidable (∀ kind ∈ kinds, named kind))
  | score _ | enter _ | exit => .isTrue trivial
  | sequence _ | custom _ => .isFalse id

instance [DecidablePred named] : DecidablePred (Declarative named : Action ε → Prop) :=
  fun action => inferInstanceAs (Decidable (∀ step ∈ action.steps, step.IsStep named))

mutual

theorem Declarative.plain :
    ∀ {action : Action ε}, action.Declarative named → action.Plain
  | emit kinds, _ => .emit kinds
  | score delta, _ => .score delta
  | enter mode, _ => .enter mode
  | exit, _ => .exit
  | sequence actions, h =>
    .sequence (plain_of_stepsAll (by simpa only [Declarative, steps] using h))
  | custom procedure, h => (h (custom procedure) (by simp [steps])).elim

theorem plain_of_stepsAll :
    ∀ {actions : List (Action ε)}, (∀ step ∈ stepsAll actions, step.IsStep named) →
      ∀ action ∈ actions, action.Plain
  | [], _ => List.forall_mem_nil _
  | action :: actions, h => by
    obtain ⟨hfirst, hmore⟩ := List.forall_mem_append.1 (by simpa only [stepsAll] using h)
    exact List.forall_mem_cons.2 ⟨Declarative.plain hfirst, plain_of_stepsAll hmore⟩

end

mutual

/-- An action does what its steps do. -/
theorem exec_eq_steps (captures : Pattern.Captures) (fired : Bool) :
    ∀ (action : Action ε) (s : State ε), exec captures action s
      = Outcome.veil action.endsIdle (execAll captures fired action.steps s)
  | emit _, _ | score _, _ | enter _, _ | exit, _ | custom _, _ => by
    simp only [steps, endsIdle, execAll, Outcome.veil]
    split
    · next h => simp [h, Except.map]
    · next h => simp [h, Except.map]
  | sequence actions, s => by
    rw [exec, steps, endsIdle, ← execAll_eq_stepsAll captures true fired actions s]
    rfl

theorem execAll_eq_stepsAll (captures : Pattern.Captures) (idle fired : Bool) :
    ∀ (actions : List (Action ε)) (s : State ε), execAll captures (!idle && fired) actions s
      = Outcome.veil (endsIdleAll idle actions) (execAll captures fired (stepsAll actions) s)
  | [], s => rfl
  | action :: actions, s => by
    rw [execAll, exec_eq_steps captures fired action s, stepsAll, execAll_append, endsIdleAll]
    obtain ⟨result, s'⟩ := execAll captures fired action.steps s
    cases result with
    | error e => rfl
    | ok fired' => exact execAll_eq_stepsAll captures action.endsIdle fired' actions s'

end

variable {action step : Action ε} {captures : Pattern.Captures} {t : Text} {s s' : State ε}
  {fired fired' : Bool}

/-- What an action does that comes to its end, its steps do. -/
theorem execAll_steps_of_exec (h : action.exec captures s = (.ok fired, s')) (first : Bool) :
    ∃ fired', execAll captures first action.steps s = (.ok fired', s') ∧
      fired = (!action.endsIdle && fired') := by
  rw [exec_eq_steps captures first action s] at h
  cases hsteps : execAll captures first action.steps s with
  | mk result s₁ =>
    rw [hsteps] at h
    cases result with
    | error e => cases h
    | ok fired' => cases h; exact ⟨fired', rfl, rfl⟩

/-- A match whose end is the start of the text is empty, and an emission of it queues nothing. -/
theorem emission_eq_nil {kinds : List TokenType} {all : List (TokenType × Nat)}
    (hc : captures.LieIn t) (h : emission kinds captures = .ok all) :
    all = [] ↔ captures.span.stop = 0 := by
  obtain ⟨parts, rfl, hcut⟩ := emission_cuts hc h
  have hstop := hcut.stop_eq
  cases parts with
  | nil => simpa [partSizes] using hstop.symm
  | cons part parts =>
    have hne : part.2.byteSize ≠ 0 := mt Text.byteSize_eq_zero.1
      (hcut.not_empty part List.mem_cons_self)
    simp only [partsText_cons, Text.byteSize_append] at hstop
    simp only [partSizes, List.map_cons, reduceCtorEq, false_iff]
    omega

/-- Pieces are queued, or the cut of one of them falls inside a character. -/
theorem emitAll_result {pieces : List (TokenType × Nat)} {result : Except Interruption Bool}
    (h : s.emitAll pieces = (result, s')) :
    result = .ok true ∨ ∃ f, result = .error (.fault f) := by
  induction pieces generalizing s with
  | nil => cases h; exact .inl rfl
  | cons piece pieces ih =>
    simp only [State.emitAll] at h
    split at h
    · exact ih h
    · next f _ => cases h; exact .inr ⟨f, rfl⟩

/-- An emission declines exactly if the match is empty, and then it does nothing. -/
theorem exec_emission (hc : captures.LieIn t) (hemits : step.emits = true)
    (h : step.exec captures s = (.ok fired, s')) :
    (fired = false ↔ captures.span.stop = 0) ∧ (fired = false → s' = s) := by
  cases step with
  | score | enter | exit | sequence | custom => cases hemits
  | emit kinds =>
    simp only [exec] at h
    split at h
    · cases h
    · next hnil =>
      cases h
      exact ⟨by simpa using emission_eq_nil hc hnil, fun _ => rfl⟩
    · next pieces hne hpieces =>
      have hfired : fired = true := by simpa using emitAll_result h
      have hstop := mt (emission_eq_nil hc hpieces).2 hne
      simp [hfired, hstop]

/-- A change of the score or the mode fires unless it fails, and leaves the text and the queue. -/
theorem exec_setting {result : Except Interruption Bool} (hstep : step.IsStep named)
    (hemits : step.emits = false) (h : step.exec captures s = (result, s')) :
    result ≠ .ok false ∧ (∀ f, result ≠ .error (.fault f)) ∧
      s'.text = s.text ∧ s'.queue = s.queue := by
  cases step with
  | emit => cases hemits
  | sequence | custom => exact hstep.elim
  | score delta => cases h; exact ⟨by simp, by simp, rfl, rfl⟩
  | enter mode =>
    simp only [exec] at h
    split at h
    · next henter =>
      cases h
      obtain ⟨_, -, rfl⟩ := State.enter_cases henter
      exact ⟨by simp, by simp, rfl, rfl⟩
    · cases h; exact ⟨by simp, by simp, rfl, rfl⟩
  | exit =>
    simp only [exec] at h
    split at h
    · next hexit =>
      cases h
      obtain ⟨_, _, -, rfl⟩ := State.exit_cases hexit
      exact ⟨by simp, by simp, rfl, rfl⟩
    · cases h; exact ⟨by simp, by simp, rfl, rfl⟩

/-- Behind a match that is not empty every step fires. -/
theorem execAll_fires {all : List (Action ε)} (hc : captures.LieIn t)
    (hall : ∀ step ∈ all, step.IsStep named) (hstop : captures.span.stop ≠ 0)
    (h : execAll captures fired all s = (.ok fired', s')) (hfirst : all = [] → fired = true) :
    fired' = true := by
  induction all generalizing fired s with
  | nil =>
    cases h
    exact hfirst rfl
  | cons step all ih =>
    simp only [execAll] at h
    split at h
    · next fired₁ s₁ hstep =>
      refine ih (fun a ha => hall a (List.mem_cons_of_mem _ ha)) h fun _ => ?_
      cases hemits : step.emits with
      | true => simpa [hstop] using (exec_emission hc hemits hstep).1
      | false => simpa using (exec_setting (hall step List.mem_cons_self) hemits hstep).1
    · cases h

/-- Behind an empty match the emissions do nothing. -/
theorem execAll_settings {all : List (Action ε)} (hc : captures.LieIn t)
    (hstop : captures.span.stop = 0) (h : execAll captures fired all s = (.ok fired', s'))
    (first : Bool) :
    ∃ fired'', execAll captures first (all.filter (!·.emits)) s = (.ok fired'', s') := by
  induction all generalizing fired first s with
  | nil =>
    cases h
    exact ⟨first, rfl⟩
  | cons step all ih =>
    simp only [execAll] at h
    split at h
    · next fired₁ s₁ hstep =>
      cases hemits : step.emits with
      | true =>
        obtain ⟨hfired, hsame⟩ := exec_emission hc hemits hstep
        obtain rfl : s₁ = s := hsame (hfired.2 hstop)
        simpa [hemits] using ih h first
      | false =>
        obtain ⟨fired'', hmore⟩ := ih h fired₁
        exact ⟨fired'', by simpa [hemits, execAll, hstep] using hmore⟩
    · cases h

/-- Changes of the score and the mode leave the text and the queue, and cannot be abandoned. -/
theorem execAll_keeps {all : List (Action ε)} {result : Except Interruption Bool}
    (hall : ∀ step ∈ all, step.IsStep named ∧ step.emits = false)
    (h : execAll captures fired all s = (result, s')) :
    (∀ f, result ≠ .error (.fault f)) ∧ s'.text = s.text ∧ s'.queue = s.queue := by
  induction all generalizing fired s with
  | nil =>
    cases h
    exact ⟨by simp, rfl, rfl⟩
  | cons step all ih =>
    obtain ⟨hisStep, hemits⟩ := hall step List.mem_cons_self
    simp only [execAll] at h
    split at h
    · next fired₁ s₁ hstep =>
      obtain ⟨-, -, htext, hqueue⟩ := exec_setting hisStep hemits hstep
      obtain ⟨hfault, htext', hqueue'⟩ := ih (fun a ha => hall a (List.mem_cons_of_mem _ ha)) h
      exact ⟨hfault, htext'.trans htext, hqueue'.trans hqueue⟩
    · next hstep =>
      cases h
      simpa using (exec_setting hisStep hemits hstep).2

/-- Steps that do not fire together end with an emission. -/
theorem last_of_execAll {all : List (Action ε)} (hall : ∀ step ∈ all, step.IsStep named)
    (h : execAll captures fired all s = (.ok false, s')) :
    (all = [] ∧ fired = false) ∨ ∃ before kinds, all = before ++ [.emit kinds] := by
  induction all generalizing fired s with
  | nil =>
    cases h
    exact .inl ⟨rfl, rfl⟩
  | cons step all ih =>
    right
    simp only [execAll] at h
    split at h
    · next fired₁ s₁ hstep =>
      rcases ih (fun a ha => hall a (List.mem_cons_of_mem _ ha)) h with
        ⟨rfl, rfl⟩ | ⟨before, kinds, rfl⟩
      · cases step with
        | emit kinds => exact ⟨[], kinds, rfl⟩
        | _ => simpa using (exec_setting (hall _ List.mem_cons_self) rfl hstep).1
      · exact ⟨step :: before, kinds, rfl⟩
    · cases h

/-- An action that does not fire ends in a sequence of no actions, or its last step emits an empty
match. -/
theorem cases_of_declined (haction : action.Declarative named) (hc : captures.LieIn t)
    (h : action.exec captures s = (.ok false, s')) :
    action.endsIdle = true ∨ action.endsIdle = false ∧ captures.span.stop = 0 ∧
      (∃ before kinds, action.steps = before ++ [.emit kinds]) ∧
      ∃ fired, execAll captures true action.settings s = (.ok fired, s') := by
  cases hidle : action.endsIdle with
  | true => exact .inl rfl
  | false =>
    obtain ⟨fired, hsteps, hveiled⟩ := execAll_steps_of_exec h true
    obtain rfl : fired = false := by simpa [hidle] using hveiled.symm
    have hlast : ∃ before kinds, action.steps = before ++ [.emit kinds] := by
      simpa using last_of_execAll haction hsteps
    have hempty : captures.span.stop = 0 := by
      by_contra hne
      have hfires := execAll_fires hc haction hne hsteps fun _ => rfl
      cases hfires
    exact .inr ⟨rfl, hempty, hlast, execAll_settings hc hempty hsteps true⟩

theorem Declarative.settings (haction : action.Declarative named) :
    ∀ step ∈ action.settings, step.IsStep named ∧ step.emits = false := by
  intro step hmem
  obtain ⟨hmem, hemits⟩ := List.mem_filter.1 hmem
  exact ⟨haction step hmem, by simpa using hemits⟩

end Action

namespace CompiledRule

variable {p : Pattern} {action : Action ε} {s s' : State ε}

/-- What a pattern rule without procedures leaves that does not fire. The stop is as before. Unless
the action ends in a sequence of no actions, so are the text and the queue, and so is everything if
the action only emits. Nothing at all has changed without a match. Behind a match either the action
ends in such a sequence, and the effects of all its steps are kept, or the match is empty and the
last step emits, and the effects of the changes of score and mode are kept. -/
theorem exec_declined (haction : action.Declarative fun _ => True)
    (h : (pattern p action).exec s = (.ok false, s')) :
    s'.stop = s.stop ∧
    (action.endsIdle = false →
      s'.text = s.text ∧ s'.queue = s.queue ∧ (action.settings = [] → s' = s)) ∧
    (p.search s.text = none ∧ s' = s ∨
      ∃ captures fired, p.search s.text = some captures ∧
        (action.endsIdle = true ∧
            Action.execAll captures true action.steps s = (.ok fired, s') ∨
          captures.span = ⟨0, 0⟩ ∧ (∃ before kinds, action.steps = before ++ [.emit kinds]) ∧
            Action.execAll captures true action.settings s = (.ok fired, s'))) := by
  have hstop : s'.stop = s.stop := by
    have hframe := exec_frame (r := pattern p action) haction.plain s
    rw [h] at hframe
    exact congrArg State.Frame.stop hframe
  cases hsearch : p.search s.text with
  | none =>
    simp only [exec, hsearch] at h
    cases h
    exact ⟨rfl, fun _ => ⟨rfl, rfl, fun _ => rfl⟩, .inl ⟨rfl, rfl⟩⟩
  | some captures =>
    simp only [exec, hsearch] at h
    have hc := Pattern.search_lieIn hsearch
    rcases Action.cases_of_declined haction hc h with hidle | ⟨hidle, hempty, hlast, fired, hset⟩
    · obtain ⟨fired, hsteps, -⟩ := Action.execAll_steps_of_exec h true
      exact ⟨hstop, by simp [hidle], .inr ⟨captures, fired, rfl, .inl ⟨hidle, hsteps⟩⟩⟩
    · obtain ⟨-, htext, hqueue⟩ := Action.execAll_keeps haction.settings hset
      refine ⟨hstop, fun _ => ⟨htext, hqueue, fun hnone => ?_⟩,
        .inr ⟨captures, fired, rfl, .inr ⟨hc.span_eq_zero hempty, hlast, hset⟩⟩⟩
      rw [hnone] at hset
      cases hset
      rfl

/-- The score of an action whose emission takes nothing is kept. -/
theorem exec_declined_by_emission : ∃ p s',
    Pattern.compile (Rule.anchoredSource []) = .ok p ∧
    (pattern p (.sequence [.score 1, .emit [.code]]) : CompiledRule Unit).exec
      { grammar := "g", modeNames := ["root"], text := ['x'] } = (.ok false, s') ∧
    s'.text = ['x'] ∧ s'.queue = ∅ ∧ s'.score = 1 := by
  obtain ⟨p, hp, hfired, hscore⟩ : ∃ p, Pattern.compile (Rule.anchoredSource []) = .ok p ∧
      ((pattern p (.sequence [.score 1, .emit [.code]]) : CompiledRule Unit).exec
        { grammar := "g", modeNames := ["root"], text := ['x'] }).1.toOption = some false ∧
      ((pattern p (.sequence [.score 1, .emit [.code]]) : CompiledRule Unit).exec
        { grammar := "g", modeNames := ["root"], text := ['x'] }).2.score = 1 := by
    decide +kernel
  cases hexec : (pattern p (.sequence [.score 1, .emit [.code]]) : CompiledRule Unit).exec
      { grammar := "g", modeNames := ["root"], text := ['x'] } with
  | mk result s' =>
    rw [hexec] at hfired hscore
    cases result with
    | error i => cases hfired
    | ok fired =>
      cases hfired
      have haction : (.sequence [.score 1, .emit [.code]] : Action Unit).Declarative
        fun _ => True := by decide
      obtain ⟨-, hkept, -⟩ := exec_declined haction hexec
      obtain ⟨htext, hqueue, -⟩ := hkept rfl
      exact ⟨p, s', hp, hexec, htext, hqueue, hscore⟩

/-- Rules that do not fire but add to the score, or take text and queue a token. -/
theorem declined_rules_leave_traces : ∃ scores takes : CompiledRule Unit,
    (Rule.pattern "" (.sequence [.score 1, .emit [.code]])).compile = .ok scores ∧
    (Rule.pattern "x" (.sequence [.emit [.code], .sequence []])).compile = .ok takes ∧
    let s : State Unit := { grammar := "g", modeNames := ["root"], text := ['x'] }
    (scores.exec s).1.toOption = some false ∧ (scores.exec s).2.score = 1 ∧
      (takes.exec s).1.toOption = some false ∧ (takes.exec s).2.text = [] ∧
      (takes.exec s).2.queue.toList = [⟨some .code, ['x']⟩] := by
  obtain ⟨scores, hscores, takes, htakes, htraces⟩ : ∃ scores,
      (Rule.pattern "" (.sequence [.score 1, .emit [.code]])).compile = .ok scores ∧ ∃ takes,
      (Rule.pattern "x" (.sequence [.emit [.code], .sequence []])).compile = .ok takes ∧
      let s : State Unit := { grammar := "g", modeNames := ["root"], text := ['x'] }
      (scores.exec s).1.toOption = some false ∧ (scores.exec s).2.score = 1 ∧
        (takes.exec s).1.toOption = some false ∧ (takes.exec s).2.text = [] ∧
        (takes.exec s).2.queue.toList = [⟨some .code, ['x']⟩] := by
    decide +kernel
  exact ⟨scores, takes, hscores, htakes, htraces⟩

end CompiledRule

end ModalLexer
