import ModalLexer.Proofs.Engine.Frame

/-! # Sequences of requests

What any number of requests returns, whether or not the scan ends in the course of them. A property
of the tokens returned so far and of the engine holds after all of them if a request of a scan that
has not ended keeps it. Such a request is laid open by `fillAfter_cases` and `nextToken_cases`.
-/

namespace ModalLexer

variable {ε : Type}

def Token.join (ts : List Token) : Text := ts.flatMap Token.text

@[simp] theorem Token.join_nil : Token.join [] = [] := rfl

@[simp] theorem Token.join_cons (t : Token) (ts : List Token) :
    Token.join (t :: ts) = t.text ++ Token.join ts := rfl

@[simp] theorem Token.join_append (ts us : List Token) :
    Token.join (ts ++ us) = Token.join ts ++ Token.join us := List.flatMap_append

/-- What a number of requests leads to. -/
structure Pulled (ε : Type) where
  /-- The tokens returned. The stop counts once, however often it is returned. -/
  tokens : List Token
  /-- The errors that were reported as tokens. -/
  errors : List RuleError
  engine : Engine ε

namespace Engine

/-- The error that the next request reports as a token, if there is one. -/
def reports? (e : Engine ε) : Option RuleError :=
  match e.state.stop with
  | some _ => none
  | none =>
    match fill e.modes e.state with
    | (.ok e?, _) => e?
    | (.error _, _) => none

def pulls : (n : Nat) → Engine ε → Except Fault (Pulled ε)
  | 0, e => .ok ⟨[], [], e⟩
  | n + 1, e =>
    match e.nextToken with
    | (.error f, _) => .error f
    | (.ok token, e') =>
      (pulls n e').map fun r =>
        if e.state.isHalted then r
        else ⟨token :: r.tokens, e.reports?.toList ++ r.errors, r.engine⟩

variable {modes : List (CompiledMode ε)} {e e' : Engine ε} {s t : State ε} {token : Token}

/-- Passes fill an empty queue in one of two ways: the last one queues a token, or it is one idle
pass too many. -/
theorem fillAfter_cases {P : State ε → Prop}
    (hpass : ∀ s e? s', P s → s.queue.toList = [] → pass modes s = (.ok e?, s') →
      s'.queue.toList = [] → P s')
    {idle : Nat} {e? : Option RuleError} (hs : P s) (hq : s.queue.toList = [])
    (h : fillAfter modes idle s = (.ok e?, t)) :
    (∃ u, P u ∧ u.queue.toList = [] ∧ pass modes u = (.ok e?, t) ∧ t.queue.toList ≠ []) ∨
      ∃ u n, P u ∧ u.queue.toList = [] ∧ e? = some (.noProgress n) ∧
        t = u.fail (.noProgress n) u.modeName := by
  fun_induction fillAfter modes idle s with
  | case1 idle s f s' hp => cases h
  | case2 idle s e' s' hp hfull =>
    have hne : s'.queue.toList ≠ [] := by
      rw [Ne, ← Queue.isEmpty_iff]
      simpa using hfull
    cases h
    exact .inl ⟨s, hs, hq, hp, hne⟩
  | case3 idle s e' s' hp hfull _ ih =>
    have hq' : s'.queue.toList = [] := Queue.isEmpty_iff.1 (by simpa using hfull)
    exact ih (hpass s e' s' hs hq hp hq') hq' h
  | case4 idle s e' s' hp hfull _ _ ih =>
    have hq' : s'.queue.toList = [] := Queue.isEmpty_iff.1 (by simpa using hfull)
    exact ih (hpass s e' s' hs hq hp hq') hq' h
  | case5 idle s e' s' hp hfull _ _ =>
    have hq' : s'.queue.toList = [] := Queue.isEmpty_iff.1 (by simpa using hfull)
    cases h
    exact .inr ⟨s', idle + 1, hpass s e' s' hs hq hp hq', hq', rfl, rfl⟩

theorem Preserves.fillAfter {P : State ε → Prop} (hP : Preserves modes P) (idle : Nat) (hs : P s) :
    P (Engine.fillAfter modes idle s).2 := by
  have hpass : ∀ {s s' : State ε} {e? : Except Fault (Option RuleError)}, P s →
      Engine.pass modes s = (e?, s') → P s' := by
    intro s s' e? hs h
    have hkept : P (Engine.pass modes s).2 := hP.pass hs
    rwa [h] at hkept
  fun_induction Engine.fillAfter modes idle s with
  | case1 idle s f s' hp | case2 idle s f s' hp => exact hpass hs hp
  | case3 idle s e' s' hp _ _ ih | case4 idle s e' s' hp _ _ _ ih => exact ih (hpass hs hp)
  | case5 idle s e' s' hp => exact hP.push _ _ (by simp) (hpass hs hp)

theorem fillAfter_frame (hplain : Plain modes) (idle : Nat) (s : State ε) :
    (fillAfter modes idle s).2.frame = s.frame :=
  (preserves_of_kept (State.kept_frame s.frame) (fun _ hs => hs) hplain.allows).fillAfter idle rfl

theorem Preserves.fill {P : State ε → Prop} (hP : Preserves modes P) (hs : P s) :
    P (Engine.fill modes s).2 := by
  unfold Engine.fill
  split
  · exact hP.fillAfter 0 hs
  · exact hs

theorem frame_of_fill (hplain : Plain modes) {e? : Except Fault (Option RuleError)}
    (h : fill modes s = (e?, t)) : t.frame = s.frame := by
  have hframe : (fill modes s).2.frame = s.frame :=
    (preserves_of_kept (State.kept_frame s.frame) (fun _ hs => hs) hplain.allows).fill rfl
  rwa [h] at hframe

/-- Filling leaves no queue empty, so the request that follows finds a token. -/
theorem fill_queue {e? : Option RuleError} (h : fill modes s = (.ok e?, t)) :
    t.queue.toList ≠ [] := by
  unfold fill at h
  split at h
  · next hempty =>
    have hq := Queue.isEmpty_iff.1 hempty
    obtain ⟨u, -, -, -, hne⟩ | ⟨u, n, -, hu, -, rfl⟩ :=
      fillAfter_cases (P := fun _ => True) (fun _ _ _ _ _ _ _ => trivial) trivial hq h
    · exact hne
    · simp [State.fail, State.push]
  · next hne =>
    cases h
    rw [Ne, ← Queue.isEmpty_iff]
    exact hne

/-- A request of a scan that has not ended takes the first token of the filled queue. -/
theorem nextToken_eq_of_fill {e? : Option RuleError} {queued : List Token}
    (hlive : e.state.stop = none) (hfill : fill e.modes e.state = (.ok e?, s))
    (hq : s.queue.toList = token :: queued) :
    ∃ queue, queue.toList = queued ∧ e.nextToken = (.ok token,
      { e with state :=
        { s with queue, stop := if token.isStop then some token else s.stop } }) := by
  cases hpop : s.queue.pop? with
  | none => rw [Queue.pop?_eq_none_iff.1 hpop] at hq; cases hq
  | some p =>
    obtain ⟨first, queue⟩ := p
    have hlist := Queue.toList_of_pop? hpop
    rw [hq] at hlist
    obtain ⟨rfl, hqueue⟩ := List.cons.inj hlist
    refine ⟨queue, hqueue.symm, ?_⟩
    simp only [nextToken, hlive, hfill, dequeue, hpop]
    split <;> rfl

theorem nextToken_of_fill (hplain : Plain e.modes) {e? : Option RuleError} {queued : List Token}
    (hlive : e.state.stop = none) (hfill : fill e.modes e.state = (.ok e?, s))
    (hq : s.queue.toList = token :: queued) :
    ∃ queue, queue.toList = queued ∧ e.nextToken = (.ok token,
      { e with state := { s with queue, stop := if token.isStop then some token else none } }) := by
  have hstop : s.stop = none :=
    (congrArg State.Frame.stop (frame_of_fill hplain hfill)).trans hlive
  obtain ⟨queue, hqueue, hnext⟩ := nextToken_eq_of_fill hlive hfill hq
  exact ⟨queue, hqueue, hstop ▸ hnext⟩

/-- A request that is answered has filled the queue. -/
theorem fill_of_nextToken (hlive : e.state.stop = none) (h : e.nextToken = (.ok token, e')) :
    ∃ s queued, fill e.modes e.state = (.ok e.reports?, s) ∧ s.queue.toList = token :: queued := by
  cases hfill : fill e.modes e.state with
  | mk e? s =>
    cases e? with
    | error f => simp [nextToken, hlive, hfill] at h
    | ok e? =>
      have hreports : e.reports? = e? := by simp [reports?, hlive, hfill]
      obtain ⟨first, queued, hq⟩ := List.exists_cons_of_ne_nil (fill_queue hfill)
      obtain ⟨queue, -, hnext⟩ := nextToken_eq_of_fill hlive hfill hq
      rw [hnext] at h
      cases h
      exact ⟨s, queued, by rw [hreports], hq⟩

/-- A request of a scan that has not ended takes the first token of the filled queue, and a stop
ends the scan. -/
theorem nextToken_cases (hplain : Plain e.modes) (hlive : e.state.stop = none)
    (h : e.nextToken = (.ok token, e')) :
    ∃ s queue, fill e.modes e.state = (.ok e.reports?, s) ∧
      s.queue.toList = token :: queue.toList ∧
      e' = { e with
        state := { s with queue, stop := if token.isStop then some token else none } } := by
  obtain ⟨s, queued, hfill, hq⟩ := fill_of_nextToken hlive h
  obtain ⟨queue, rfl, hnext⟩ := nextToken_of_fill hplain hlive hfill hq
  rw [hnext] at h
  cases h
  exact ⟨s, queue, hfill, hq, rfl⟩

/-- A property that rules keep and that does not depend on the stop is kept by taking a token. -/
theorem dequeue_kept {P : State ε → Prop} (hP : State.Kept P)
    (hstop : ∀ {s : State ε} (stop : Option Token), P s → P { s with stop }) (hs : P s) :
    P (dequeue s).2 := by
  cases hpop : s.queue.pop? with
  | none =>
    simp only [dequeue, hpop]
    split
    · exact hstop _ hs
    · exact hs
  | some p =>
    have htaken := hP.contents s.text p.2 s.extension hs
    simp only [dequeue, hpop]
    split
    · exact hstop _ htaken
    · exact htaken

theorem modes_nextToken (e : Engine ε) : e.nextToken.2.modes = e.modes := by
  unfold nextToken
  split
  · rfl
  · split <;> rfl

/-- What the passes and taking a token keep is kept by requests. -/
theorem Preserves.nextToken {P : State ε → Prop} (hP : Preserves e.modes P)
    (hdequeue : ∀ {s : State ε}, P s → P (dequeue s).2) (he : P e.state) :
    e.nextToken.2.modes = e.modes ∧ P e.nextToken.2.state := by
  have hfilled : P (Engine.fill e.modes e.state).2 := hP.fill he
  refine ⟨modes_nextToken e, ?_⟩
  unfold Engine.nextToken
  split
  · exact he
  · split
    · next hfill => rwa [hfill] at hfilled
    · next hfill => rw [hfill] at hfilled; exact hdequeue hfilled

/-- A property that rules keep and that depends neither on the number of the rule nor on the stop is
kept by requests. -/
theorem nextToken_kept {P : State ε → Prop} (hP : State.Kept P)
    (hrule : ∀ {s : State ε} (rule : Nat), P s → P { s with rule })
    (hstop : ∀ {s : State ε} (stop : Option Token), P s → P { s with stop })
    (hmodes : Allows (State.KeptBy P) e.modes) (he : P e.state) :
    e.nextToken.2.modes = e.modes ∧ P e.nextToken.2.state :=
  (preserves_of_kept hP hrule hmodes).nextToken (dequeue_kept hP hstop) he

theorem byteSize_fillAfter_le (modes : List (CompiledMode ε)) (idle : Nat) (s : State ε) :
    (fillAfter modes idle s).2.text.byteSize ≤ s.text.byteSize := by
  have hpass : ∀ {s s' : State ε} {e? : Except Fault (Option RuleError)},
      pass modes s = (e?, s') → s'.text.byteSize ≤ s.text.byteSize := by
    intro s s' e? h
    have hle := byteSize_pass_le modes s
    rwa [h] at hle
  fun_induction fillAfter modes idle s with
  | case1 idle s f s' hp | case2 idle s f s' hp => exact hpass hp
  | case3 idle s e' s' hp _ _ ih | case4 idle s e' s' hp _ _ _ ih =>
    exact Nat.le_trans ih (hpass hp)
  | case5 idle s e' s' hp =>
    have hle := hpass hp
    exact hle

/-- No request leaves more text than it finds. -/
theorem byteSize_nextToken_le (e : Engine ε) :
    e.nextToken.2.state.text.byteSize ≤ e.state.text.byteSize := by
  have hfill : (fill e.modes e.state).2.text.byteSize ≤ e.state.text.byteSize := by
    unfold fill
    split
    · exact byteSize_fillAfter_le _ _ _
    · exact Nat.le_refl _
  have hdequeue : ∀ s : State ε, (dequeue s).2.text = s.text := by
    intro s
    unfold dequeue
    cases s.queue.pop? <;> (simp only; split <;> rfl)
  unfold nextToken
  split
  · exact Nat.le_refl _
  · split
    · next h => rwa [h] at hfill
    · next h => rw [h] at hfill; simpa only [hdequeue] using hfill

/-- Once a scan has ended, requests return its stop and do nothing else. -/
theorem nextToken_of_halted {stop : Token} (h : e.state.stop = some stop) :
    e.nextToken = (.ok stop, e) := by
  simp only [nextToken, h]

theorem pulls_induction {I : List Token → List RuleError → Engine ε → Prop}
    (step : ∀ ts errors e token e', e.modes = modes → I ts errors e → e.state.stop = none →
      e.nextToken = (.ok token, e') → I (ts ++ [token]) (errors ++ e.reports?.toList) e')
    {n : Nat} (ts : List Token) (errors : List RuleError) {r : Pulled ε} (hsame : e.modes = modes)
    (h : I ts errors e) (hr : e.pulls n = .ok r) :
    I (ts ++ r.tokens) (errors ++ r.errors) r.engine := by
  induction n generalizing ts errors e r with
  | zero =>
    cases hr
    simpa using h
  | succ n ih =>
    unfold pulls at hr
    cases hnext : e.nextToken with
    | mk answer e' =>
      have hsame' : e'.modes = modes := by
        have hmodes := modes_nextToken e
        rw [hnext] at hmodes
        exact hmodes.trans hsame
      cases answer with
      | error f => simp [hnext] at hr
      | ok token =>
        simp only [hnext] at hr
        cases hrest : e'.pulls n with
        | error f => rw [hrest] at hr; cases hr
        | ok rest =>
          rw [hrest] at hr
          cases hstop : e.state.stop with
          | none =>
            simp only [State.isHalted, hstop] at hr
            cases hr
            simpa using ih _ _ hsame' (step ts errors e token e' hsame h hstop hnext) hrest
          | some stop =>
            rw [nextToken_of_halted hstop] at hnext
            cases hnext
            simp only [State.isHalted, hstop] at hr
            cases hr
            exact ih _ _ hsame h hrest

theorem modes_of_pulls {n : Nat} {r : Pulled ε} (hr : e.pulls n = .ok r) :
    r.engine.modes = e.modes :=
  pulls_induction (I := fun _ _ e' => e'.modes = e.modes)
    (fun _ _ e₁ _ e₂ hsame _ _ hnext => by
      have hmodes := modes_nextToken e₁
      rw [hnext] at hmodes
      exact hmodes.trans hsame)
    [] [] rfl rfl hr

/-- Any number of requests is answered if every request of a scan that has not ended is answered and
keeps the property. -/
theorem exists_pulls {I : List Token → Engine ε → Prop}
    (step : ∀ ts e, I ts e → e.state.stop = none →
      ∃ token e', e.nextToken = (.ok token, e') ∧ I (ts ++ [token]) e')
    (n : Nat) (ts : List Token) (h : I ts e) :
    ∃ r, e.pulls n = .ok r ∧ I (ts ++ r.tokens) r.engine := by
  induction n generalizing ts e with
  | zero => exact ⟨⟨[], [], e⟩, rfl, by simpa using h⟩
  | succ n ih =>
    unfold pulls
    cases hstop : e.state.stop with
    | some stop =>
      obtain ⟨r, hr, hkept⟩ := ih ts h
      exact ⟨r, by simp [nextToken_of_halted hstop, hr, State.isHalted, hstop, Except.map], hkept⟩
    | none =>
      obtain ⟨token, e', hnext, h'⟩ := step ts e h hstop
      obtain ⟨r, hr, hkept⟩ := ih (ts ++ [token]) h'
      refine ⟨⟨token :: r.tokens, e.reports?.toList ++ r.errors, r.engine⟩, ?_, ?_⟩
      · simp [hnext, hr, State.isHalted, hstop, Except.map]
      · simpa using hkept

/-- Requests change nothing of the frame but the stop. -/
theorem frame_of_pulls (hplain : Plain e.modes) {n : Nat} {r : Pulled ε} (hr : e.pulls n = .ok r) :
    { r.engine.state.frame with stop := e.state.stop } = e.state.frame := by
  refine pulls_induction
    (I := fun _ _ e' => { e'.state.frame with stop := e.state.stop } = e.state.frame)
    (fun _ _ e₁ token e₂ hsame hI hlive hnext => ?_) [] [] rfl rfl hr
  rw [← hsame] at hplain
  obtain ⟨s, queue, hfill, -, rfl⟩ := nextToken_cases hplain hlive hnext
  have hframe : s.frame = e₁.state.frame := frame_of_fill hplain hfill
  have hkept : { s.frame with stop := e.state.stop } = e.state.frame := by rw [hframe, hI]
  exact hkept

end Engine

/-- The code that requests a token, of an engine with the given modes. -/
def Intervention.request (modes : List (CompiledMode ε)) : Intervention ε where
  run s :=
    let (answer, e) := Engine.nextToken ⟨modes, s⟩
    (answer.map some, e.state)
  byteSize_le s := Engine.byteSize_nextToken_le ⟨modes, s⟩
  grammar_eq s := (Engine.nextToken_kept (State.kept_grammar s.grammar) (fun _ h => h)
    (fun _ h => h) (Engine.allows_of_forall (State.grammar_keptBy _) modes) rfl).2
  modeNames_eq s := (Engine.nextToken_kept (State.kept_modeNames s.modeNames) (fun _ h => h)
    (fun _ h => h) (Engine.allows_of_forall (State.modeNames_keptBy _) modes) rfl).2
  inModes h := (Engine.nextToken_kept State.kept_inModes (fun _ h => ⟨h.mode, h.stack⟩)
    (fun _ h => ⟨h.mode, h.stack⟩) (Engine.allows_of_forall (fun i _ h => i.inModes h) modes) h).2

/-- The procedure that takes a character and requests a token, and then queues a word that tells
whether it has got a stop. The requests are nested at most `depth` deep. -/
def asking : (depth : Nat) → Procedure Unit
  | 0 => .done false
  | depth + 1 => .consume 1 fun _ =>
    .intervene (.request [⟨"root", [.procedure (asking depth)]⟩]) fun token? =>
      .push ⟨some .code, [if token?.any Token.isStop then 's' else 'n']⟩ (.done true)

/-- The grammar with one mode and a procedure as its rule. -/
def Grammar.ofProcedure (p : Procedure ε) : Grammar ε :=
  { name := "g", modes? := some [⟨"root", [.procedure p]⟩] }

theorem Grammar.plain_ofProcedure {p : Procedure ε} (hp : p.Plain) : (ofProcedure p).Plain := by
  intro modes hmodes mode hmode r hr
  cases hmodes
  obtain rfl := List.mem_singleton.1 hmode
  obtain rfl := List.mem_singleton.1 hr
  exact hp

end ModalLexer
