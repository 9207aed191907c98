import ModalLexer.Proofs.Rule.Trace

/-! # Actions with one emission

All steps of an action share a match that was found before the first of them ran, and an emission
takes the match from the front of the text as it is. So a second emission in an action takes text
behind the match. An action with one emission at most cuts the text up to the end of the match into
tokens that are not empty, or leaves the text and the queue alone, and it is never abandoned.
-/

namespace ModalLexer

variable {ε : Type}

/-- Text has gone from the front of the input to the back of the queue, as tokens that are not empty
and no stops. -/
structure State.Cuts (s s' : State ε) (tokens : List Token) : Prop where
  text : s.text = Token.join tokens ++ s'.text
  queue : s'.queue.toList = s.queue.toList ++ tokens
  sound : ∀ token ∈ tokens, token.text ≠ [] ∧ token.isStop = false

theorem State.cuts_of_eq {s s' : State ε} (htext : s'.text = s.text) (hq : s'.queue = s.queue) :
    s.Cuts s' [] :=
  ⟨by simp [htext], by simp [hq], by simp⟩

theorem State.Cuts.trans {s s' t : State ε} {tokens more : List Token} (h : s.Cuts s' tokens)
    (h' : s'.Cuts t more) : s.Cuts t (tokens ++ more) := by
  refine ⟨?_, ?_, ?_⟩
  · rw [h.text, h'.text, Token.join_append, List.append_assoc]
  · rw [h'.queue, h.queue, List.append_assoc]
  · intro token htoken
    rcases List.mem_append.1 htoken with hmem | hmem
    · exact h.sound token hmem
    · exact h'.sound token hmem

theorem join_partTokens (parts : List (TokenType × Text)) :
    Token.join (partTokens parts) = partsText parts := by
  induction parts with
  | nil => rfl
  | cons part parts ih => simpa [partTokens] using ih

/-- The type is not of the class of stops. -/
abbrev TokenType.NotStop (kind : TokenType) : Prop := ¬ kind.IsA .stop

namespace Action

open TokenType (NotStop)

/-- The action is put together from steps that name no stops. At most one of them is an emission,
and the action does not end in a sequence of no actions. -/
structure Tidy (action : Action ε) : Prop where
  declarative : action.Declarative NotStop
  once : (action.steps.filter emits).length ≤ 1
  not_idle : action.endsIdle = false

variable {action step : Action ε} {captures : Pattern.Captures} {s s' : State ε} {fired : Bool}
  {result : Except Interruption Bool}

/-- The outcome took nothing, or tokens that make up the text up to the end of the match. -/
def CutsMatch (captures : Pattern.Captures) (s s' : State ε) : Prop :=
  ∃ tokens, s.Cuts s' tokens ∧
    (tokens = [] ∨ (Token.join tokens).byteSize = captures.span.stop)

theorem exec_emission_cuts (hc : captures.LieIn s.text) (hstep : step.IsStep NotStop)
    (hemits : step.emits = true) (h : step.exec captures s = (result, s')) :
    (∀ f, result ≠ .error (.fault f)) ∧ CutsMatch captures s s' := by
  have hsame : CutsMatch captures s s := ⟨[], State.cuts_of_eq rfl rfl, .inl rfl⟩
  cases step with
  | score | enter | exit | sequence | custom => cases hemits
  | emit kinds =>
    simp only [exec] at h
    split at h
    · cases h; exact ⟨by simp, hsame⟩
    · cases h; exact ⟨by simp, hsame⟩
    · next pieces _ hpieces =>
      obtain ⟨parts, rfl, hcut⟩ := emission_cuts hc hpieces
      obtain ⟨s₁, hs₁, -, htext, hq⟩ := State.emitAll_cuts hcut
      rw [hs₁] at h
      cases h
      refine ⟨by simp, partTokens parts, ⟨?_, hq, ?_⟩, .inr ?_⟩
      · rw [join_partTokens]
        exact htext
      · intro token htoken
        obtain ⟨part, hpart, rfl⟩ := List.mem_map.1 htoken
        refine ⟨hcut.not_empty part hpart, ?_⟩
        have hkind : ¬ part.1.IsA .stop := by
          rcases mem_of_emission hpieces (List.mem_map_of_mem hpart) with htextual | hnamed
          · rw [show part.1 = .text from htextual]
            decide
          · exact hstep _ hnamed
        simpa [Token.isStop, Token.isA] using hkind
      · rw [join_partTokens, ← hcut.stop_eq, Text.byteSize_nil, Nat.zero_add]

/-- Steps with one emission among them at most. -/
theorem execAll_cuts {all : List (Action ε)} (hc : captures.LieIn s.text)
    (hall : ∀ step ∈ all, step.IsStep NotStop) (honce : (all.filter emits).length ≤ 1)
    (h : execAll captures fired all s = (result, s')) :
    (∀ f, result ≠ .error (.fault f)) ∧ CutsMatch captures s s' := by
  induction all generalizing fired s with
  | nil =>
    cases h
    exact ⟨by simp, [], State.cuts_of_eq rfl rfl, .inl rfl⟩
  | cons step all ih =>
    have hstep := hall step List.mem_cons_self
    have hmore : ∀ a ∈ all, a.IsStep NotStop := fun a ha => hall a (List.mem_cons_of_mem _ ha)
    simp only [execAll] at h
    cases hemits : step.emits with
    | false =>
      split at h
      · next fired₁ s₁ hs₁ =>
        obtain ⟨-, -, htext, hqueue⟩ := exec_setting hstep hemits hs₁
        obtain ⟨hfault, tokens, hcuts, hsize⟩ :=
          ih (htext ▸ hc) hmore (by simpa [hemits] using honce) h
        exact ⟨hfault, tokens, (State.cuts_of_eq htext hqueue).trans hcuts, hsize⟩
      · next i s₁ hs₁ =>
        cases h
        obtain ⟨-, hfault, htext, hqueue⟩ := exec_setting hstep hemits hs₁
        exact ⟨by simpa using hfault, [], State.cuts_of_eq htext hqueue, .inl rfl⟩
    | true =>
      split at h
      · next fired₁ s₁ hs₁ =>
        obtain ⟨-, tokens, hcuts, hsize⟩ := exec_emission_cuts hc hstep hemits hs₁
        -- The steps behind the emission change neither the text nor the queue.
        have hnone : ∀ a ∈ all, a.IsStep NotStop ∧ a.emits = false := by
          intro a ha
          refine ⟨hmore a ha, ?_⟩
          by_contra hemit
          have hmem : a ∈ all.filter emits := List.mem_filter.2 ⟨ha, by simpa using hemit⟩
          have hpos := List.length_pos_of_mem hmem
          rw [List.filter_cons_of_pos hemits, List.length_cons] at honce
          omega
        obtain ⟨hfault, htext, hqueue⟩ := execAll_keeps hnone h
        have hkept := hcuts.trans (State.cuts_of_eq htext hqueue)
        exact ⟨hfault, tokens, by simpa using hkept, hsize⟩
      · next i s₁ hs₁ =>
        cases h
        simpa using exec_emission_cuts hc hstep hemits hs₁

/-- A tidy action is never abandoned, and takes nothing or the text up to the end of the match. If
it does not fire nothing has changed but the score and the mode. -/
theorem Tidy.exec_cuts (haction : action.Tidy) (hc : captures.LieIn s.text)
    (h : action.exec captures s = (result, s')) :
    (∀ f, result ≠ .error (.fault f)) ∧ CutsMatch captures s s' ∧
      (result = .ok false → s'.text = s.text ∧ s'.queue = s.queue) := by
  have hsteps := exec_eq_steps captures true action s
  rw [h] at hsteps
  cases hall : execAll captures true action.steps s with
  | mk result₁ s₁ =>
    rw [hall] at hsteps
    obtain ⟨hresult, rfl⟩ := Prod.mk.inj hsteps
    obtain ⟨hfault, hcuts⟩ := execAll_cuts hc haction.declarative haction.once hall
    refine ⟨fun f hf => ?_, hcuts, fun hdeclined => ?_⟩
    · subst hf
      cases result₁ with
      | ok => cases hresult
      | error i => cases hresult; exact hfault f rfl
    · subst hdeclined
      rcases cases_of_declined haction.declarative hc h with hidle | ⟨-, -, -, _, hset⟩
      · rw [haction.not_idle] at hidle
        cases hidle
      · exact (execAll_keeps haction.declarative.settings hset).2

end Action

/-- A tidy pattern rule takes nothing without a match. Behind a match it takes nothing or the text
up to the end of the match. -/
theorem CompiledRule.exec_cuts {p : Pattern} {action : Action ε} {s s' : State ε}
    {result : Except Interruption Bool} (haction : action.Tidy)
    (h : (pattern p action).exec s = (result, s')) :
    (∀ f, result ≠ .error (.fault f)) ∧
      (result = .ok false → s'.text = s.text ∧ s'.queue = s.queue) ∧
      (result = .ok false ∧ s' = s ∨ ∃ captures, p.search s.text = some captures ∧
        Action.CutsMatch captures s s') := by
  simp only [exec] at h
  split at h
  · next captures hsearch =>
    obtain ⟨hfault, hcuts, hdeclined⟩ := haction.exec_cuts (Pattern.search_lieIn hsearch) h
    exact ⟨hfault, hdeclined, .inr ⟨captures, hsearch, hcuts⟩⟩
  · cases h
    exact ⟨by simp, fun _ => ⟨rfl, rfl⟩, .inl ⟨rfl, rfl⟩⟩

variable {P : Action ε → Prop}

/-- The rule is a pattern with an action that satisfies `P`. -/
def Rule.Declares (P : Action ε → Prop) : Rule ε → Prop
  | pattern _ action => P action
  | procedure _ => False

def CompiledRule.Declares (P : Action ε → Prop) : CompiledRule ε → Prop
  | pattern _ action => P action
  | procedure _ => False

/-- All rules of the grammar are patterns with actions that satisfy `P`. -/
def Grammar.Declares (P : Action ε → Prop) (g : Grammar ε) : Prop :=
  ∀ modes, g.modes? = some modes → ∀ mode ∈ modes, ∀ r ∈ mode.rules, r.Declares P

theorem CompiledRule.Declares.exists_eq {r : CompiledRule ε} (h : r.Declares P) :
    ∃ p action, r = .pattern p action ∧ P action := by
  cases r with
  | pattern p action => exact ⟨p, action, rfl, h⟩
  | procedure => exact h.elim

theorem Engine.plain_of_declares {modes : List (CompiledMode ε)}
    (hP : ∀ action, P action → action.Plain)
    (h : ∀ mode ∈ modes, ∀ r ∈ mode.rules, r.Declares P) : Plain modes := by
  intro mode hmode r hr
  obtain ⟨p, action, rfl, haction⟩ := (h mode hmode r hr).exists_eq
  exact hP action haction

theorem Rule.Declares.compile {r : Rule ε} {c : CompiledRule ε} (hr : r.Declares P)
    (h : r.compile = .ok c) : c.Declares P := by
  obtain ⟨source, action, p, rfl, -, rfl⟩ | ⟨p, rfl, rfl⟩ := compile_cases h
  · exact hr
  · exact hr

theorem Grammar.Declares.compile {g : Grammar ε} {modes : List (CompiledMode ε)}
    (hg : g.Declares P) (h : g.compile = .ok modes) :
    ∀ mode ∈ modes, ∀ r ∈ mode.rules, r.Declares P :=
  forall_compile (fun _ _ hr hrc => hr.compile hrc) hg h

end ModalLexer
