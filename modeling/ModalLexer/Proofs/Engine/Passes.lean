import ModalLexer.Proofs.Engine.Markers

/-! # Passes laid open

A pass finds the end of the text or a marker, or it tries the rules of the current mode: those in
front decline one after the other, and then a rule fires or fails, or none is left. Passes are
counted by a copy of the loop that makes them, which returns the same state beside the count.
-/

namespace ModalLexer

variable {ε : Type}

/-- The token that reports an error of the rule tried last in the given mode. -/
def State.report (s : State ε) (e : RuleError) (mode : String) : Token :=
  ⟨some .stopError, (e.message ++ " (grammar='" ++ s.grammar ++ "', mode='" ++ mode
    ++ s!"', rule={s.rule})").toList⟩

theorem State.fail_eq_push (s : State ε) (e : RuleError) (mode : String) :
    s.fail e mode = s.push (s.report e mode) := rfl

theorem State.isStop_report (s : State ε) (e : RuleError) (mode : String) :
    (s.report e mode).isStop = true := by
  simp [report, Token.isStop, Token.isA, show TokenType.stopError.IsA .stop by decide]

namespace Engine

/-- The rules, numbered from `index`, decline one after the other. Each is tried on what the one
before it has left. -/
inductive Declined : Nat → List (CompiledRule ε) → State ε → State ε → Prop
  | nil (index : Nat) (s : State ε) : Declined index [] s s
  | cons {index : Nat} {rule : CompiledRule ε} {rules : List (CompiledRule ε)} {s s' t : State ε}
    (h : rule.exec { s with rule := index } = (.ok false, s'))
    (hmore : Declined (index + 1) rules s' t) : Declined index (rule :: rules) s t

/-- The rule has its turn: the rules in front of it have declined and left the state `t`. -/
def Turn (index : Nat) (rules : List (CompiledRule ε)) (s : State ε) (rule : CompiledRule ε)
    (number : Nat) (t : State ε) : Prop :=
  ∃ before after, rules = before ++ rule :: after ∧ number = index + before.length ∧
    Declined index before s t

/-- How the rules of a mode end a pass. -/
inductive Tried (mode : String) (index : Nat) (rules : List (CompiledRule ε)) (s : State ε) :
    Except Fault (Option RuleError) → State ε → Prop
  | fired {rule : CompiledRule ε} {number : Nat} {t s' : State ε}
    (hturn : Turn index rules s rule number t)
    (h : rule.exec { t with rule := number } = (.ok true, s')) :
    Tried mode index rules s (.ok none) s'
  | failed {rule : CompiledRule ε} {number : Nat} {t s' : State ε} {e : RuleError}
    (hturn : Turn index rules s rule number t)
    (h : rule.exec { t with rule := number } = (.error (.error e), s')) :
    Tried mode index rules s (.ok (some e)) (s'.fail e mode)
  | abandoned {rule : CompiledRule ε} {number : Nat} {t s' : State ε} {f : Fault}
    (hturn : Turn index rules s rule number t)
    (h : rule.exec { t with rule := number } = (.error (.fault f), s')) :
    Tried mode index rules s (.error f) s'
  | unmatched {t : State ε} (h : Declined index rules s t) :
    Tried mode index rules s (.ok none) (t.push ⟨some .stopLexer, []⟩)

variable {mode : String} {index number : Nat} {rule : CompiledRule ε}
  {rules : List (CompiledRule ε)} {s s' t : State ε} {answer : Except Fault (Option RuleError)}

theorem Turn.cons {first : CompiledRule ε}
    (hfirst : first.exec { s with rule := index } = (.ok false, s'))
    (h : Turn (index + 1) rules s' rule number t) :
    Turn index (first :: rules) s rule number t := by
  obtain ⟨before, after, rfl, rfl, hdeclined⟩ := h
  refine ⟨first :: before, after, rfl, ?_, .cons hfirst hdeclined⟩
  rw [List.length_cons]
  omega

theorem Declined.kept {P : State ε → Prop} (hP : State.Kept P)
    (hrule : ∀ {s : State ε} (rule : Nat), P s → P { s with rule })
    (hrules : ∀ r ∈ rules, r.Allows (State.KeptBy P)) (h : Declined index rules s t) (hs : P s) :
    P t := by
  induction h with
  | nil => exact hs
  | @cons index rule rules s s' t hexec _ ih =>
    obtain ⟨hfirst, hmore⟩ := List.forall_mem_cons.1 hrules
    have hkept := CompiledRule.exec_kept hP hfirst (hrule index hs)
    rw [hexec] at hkept
    exact ih hmore hkept

/-- What the operations keep holds when a rule has its turn. -/
theorem Turn.kept {P : State ε → Prop} (hP : State.Kept P)
    (hrule : ∀ {s : State ε} (rule : Nat), P s → P { s with rule })
    (hrules : ∀ r ∈ rules, r.Allows (State.KeptBy P)) (h : Turn index rules s rule number t)
    (hs : P s) : P t := by
  obtain ⟨before, after, rfl, -, hdeclined⟩ := h
  exact hdeclined.kept hP hrule (fun r hr => hrules r (List.mem_append_left _ hr)) hs

theorem tried (h : tryRules mode index rules s = (answer, s')) :
    Tried mode index rules s answer s' := by
  induction rules generalizing index s with
  | nil =>
    cases h
    exact .unmatched (.nil index s)
  | cons rule rules ih =>
    have hfirst : Turn index (rule :: rules) s rule index s := ⟨[], rules, rfl, rfl, .nil index s⟩
    simp only [tryRules] at h
    split at h
    · next hexec => cases h; exact .fired hfirst hexec
    · next s₁ hexec =>
      -- What ends the pass behind a rule that declines ends it with that rule in front.
      cases ih h with
      | fired hturn h' => exact .fired (hturn.cons hexec) h'
      | failed hturn h' => exact .failed (hturn.cons hexec) h'
      | abandoned hturn h' => exact .abandoned (hturn.cons hexec) h'
      | unmatched hdeclined => exact .unmatched (.cons hexec hdeclined)
    · next hexec => cases h; exact .failed hfirst hexec
    · next hexec => cases h; exact .abandoned hfirst hexec

/-- A rule that fires on its turn ends the pass. -/
theorem Turn.tryRules_eq (h : Turn index rules s rule number t)
    (hexec : rule.exec { t with rule := number } = (.ok true, s')) :
    tryRules mode index rules s = (.ok none, s') := by
  obtain ⟨before, after, rfl, rfl, hdeclined⟩ := h
  induction hdeclined with
  | nil index s =>
    rw [List.length_nil, Nat.add_zero] at hexec
    simp only [List.nil_append, tryRules, hexec]
  | @cons index first rules s s₁ t hfirst _ ih =>
    have hnumber : index + (first :: rules).length = index + 1 + rules.length := by
      rw [List.length_cons]
      omega
    rw [hnumber] at hexec
    simp only [List.cons_append, tryRules, hfirst]
    exact ih hexec

variable {modes : List (CompiledMode ε)}

/-- A pass over `s` tries rules, and `rule` has its turn in the state `t`. -/
def RuleTurn (modes : List (CompiledMode ε)) (s : State ε) (rule : CompiledRule ε) (number : Nat)
    (t : State ε) : Prop :=
  s.text ≠ [] ∧ markerAt? s = none ∧
    ∃ mode, modes[s.mode]? = some mode ∧ Turn 0 mode.rules s rule number t

theorem pass_of_rules {m : CompiledMode ε} (htext : s.text ≠ []) (hmarker : markerAt? s = none)
    (hmode : modes[s.mode]? = some m) : pass modes s = tryRules m.name 0 m.rules s := by
  have hne : ¬ s.text.isEmpty = true := by simpa using htext
  rw [markerAt?, if_neg hne] at hmarker
  simp only [pass, if_neg hne, hmarker, hmode]

theorem RuleTurn.pass_eq (h : RuleTurn modes s rule number t)
    (hexec : rule.exec { t with rule := number } = (.ok true, s')) :
    pass modes s = (.ok none, s') := by
  obtain ⟨htext, hmarker, mode, hmode, hturn⟩ := h
  rw [pass_of_rules htext hmarker hmode]
  exact hturn.tryRules_eq hexec

/-- What ends a pass: the end of the text, a marker, or the rules of the current mode. -/
theorem pass_cases (h : pass modes s = (answer, s')) :
    (s.text = [] ∧ answer = .ok none ∧ s' = s.push ⟨some .stopEndOfString, []⟩) ∨
      (∃ marker, markerAt? s = some marker ∧ answer = .ok none ∧ s' = cut s marker) ∨
      (s.text ≠ [] ∧ markerAt? s = none ∧
        ((modes[s.mode]? = none ∧ answer = .error .missingMode ∧ s' = s) ∨
          ∃ mode, modes[s.mode]? = some mode ∧ Tried mode.name 0 mode.rules s answer s')) := by
  by_cases htext : s.text = []
  · have hnil : s.text.isEmpty = true := by simpa using htext
    rw [pass, if_pos hnil] at h
    cases h
    exact .inl ⟨htext, rfl, rfl⟩
  · cases hmarker : markerAt? s with
    | some marker =>
      rw [pass_of_marker hmarker] at h
      cases h
      exact .inr (.inl ⟨marker, rfl, rfl, rfl⟩)
    | none =>
      refine .inr (.inr ⟨htext, rfl, ?_⟩)
      cases hmode : modes[s.mode]? with
      | none =>
        have hne : ¬ s.text.isEmpty = true := by simpa using htext
        rw [markerAt?, if_neg hne] at hmarker
        simp only [pass, if_neg hne, hmarker, hmode] at h
        cases h
        exact .inl ⟨rfl, rfl, rfl⟩
      | some mode =>
        rw [pass_of_rules htext hmarker hmode] at h
        exact .inr ⟨mode, rfl, tried h⟩

/-- If no pass is abandoned in a state with the property, and every pass keeps it, then filling the
queue is not abandoned and keeps it. -/
theorem fill_answers {P : State ε → Prop}
    (hpass : ∀ {s s' : State ε} {answer : Except Fault (Option RuleError)}, P s →
      pass modes s = (answer, s') → (∀ f, answer ≠ .error f) ∧ P s')
    (hfail : ∀ {s : State ε} (e : RuleError) (mode : String), P s → P (s.fail e mode))
    (hs : P s) (h : fill modes s = (answer, s')) : (∀ f, answer ≠ .error f) ∧ P s' := by
  have hafter : ∀ idle s, P s → ∀ answer s', fillAfter modes idle s = (answer, s') →
      (∀ f, answer ≠ .error f) ∧ P s' := by
    intro idle s
    induction idle, s using passes_induction modes with
    | step idle s ih =>
      intro hs answer s' h
      rw [fillAfter_eq] at h
      cases hfirst : pass modes s with
      | mk result s₁ =>
        rw [hfirst] at h
        obtain ⟨hfault, hkept⟩ := hpass hs hfirst
        cases result with
        | error f => exact absurd rfl (hfault f)
        | ok e? =>
          simp only at h
          split at h
          · cases h
            exact ⟨by simp, hkept⟩
          · next hempty =>
            split at h
            · next hmore => exact ih e? s₁ hfirst (by simpa using hempty) hmore hkept answer s' h
            · cases h
              exact ⟨by simp, hfail _ _ hkept⟩
  unfold fill at h
  split at h
  · exact hafter 0 s hs answer s' h
  · cases h
    exact ⟨by simp, hs⟩

/-- Makes passes until a token is queued, and counts them. -/
def countedFill (modes : List (CompiledMode ε)) (idle : Nat) (s : State ε) :
    Nat × Except Fault (Option RuleError) × State ε :=
  match h : pass modes s with
  | (.error f, s') => (1, .error f, s')
  | (.ok e?, s') =>
    if s'.queue.isEmpty = false then (1, .ok e?, s')
    else if hmore : idleAfter idle s s' < maxIdlePasses then
      let more := countedFill modes (idleAfter idle s s') s'
      (more.1 + 1, more.2)
    else (1, .ok (some (.noProgress (idle + 1))), s'.fail (.noProgress (idle + 1)) s'.modeName)
termination_by (maxIdlePasses + 1) * s.text.byteSize + (maxIdlePasses - idle)
decreasing_by
  have hle := byteSize_pass_le modes s
  rw [h] at hle
  simp only [maxIdlePasses] at hmore hle ⊢
  by_cases hmoved : s'.text.byteSize ≠ s.text.byteSize
  · rw [idleAfter, if_pos hmoved]
    omega
  · rw [idleAfter, if_neg hmoved] at hmore ⊢
    omega

theorem countedFill_eq (modes : List (CompiledMode ε)) (idle : Nat) (s : State ε) :
    countedFill modes idle s =
      match pass modes s with
      | (.error f, s') => (1, .error f, s')
      | (.ok e?, s') =>
        if s'.queue.isEmpty = false then (1, .ok e?, s')
        else if idleAfter idle s s' < maxIdlePasses then
          ((countedFill modes (idleAfter idle s s') s').1 + 1,
            (countedFill modes (idleAfter idle s s') s').2)
        else
          (1, .ok (some (.noProgress (idle + 1))),
            s'.fail (.noProgress (idle + 1)) s'.modeName) := by
  rw [countedFill]
  split <;> simp_all

/-- Counting changes nothing. -/
theorem countedFill_snd (modes : List (CompiledMode ε)) (idle : Nat) (s : State ε) :
    (countedFill modes idle s).2 = fillAfter modes idle s := by
  induction idle, s using passes_induction modes with
  | step idle s ih =>
    rw [countedFill_eq, fillAfter_eq]
    cases hpass : pass modes s with
    | mk answer s' =>
      cases answer with
      | error f => rfl
      | ok e? =>
        simp only
        split
        · rfl
        · next hempty =>
          split
          · next hmore => exact ih e? s' hpass (by simpa using hempty) hmore
          · rfl

/-- The number of passes that the next request makes. -/
def requestPasses (e : Engine ε) : Nat :=
  if e.state.isHalted || !e.state.queue.isEmpty then 0 else (countedFill e.modes 0 e.state).1

end Engine

end ModalLexer
