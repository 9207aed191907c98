import ModalLexer.Proofs.Engine.Frame
import ModalLexer.Proofs.Rule.Composition
import ModalLexer.Proofs.Rule.Emission

/-! # Rules as steps on a text

Most rules look at nothing but the text. Such a rule either declines or takes a step: it cuts tokens
off the text, adds to the score and changes the mode. `Rule.Does` says which of the two it does on a
text, in terms of the situation and the queue of the scan.
-/

namespace ModalLexer

variable {ε : Type}

/-- The part of a state that a rule changes, besides the queue. -/
structure Situation where
  mode : Nat
  /-- The modes to return to, the latest first. -/
  stack : List Nat
  score : Int64
  text : Text

def Situation.start (text : Text) : Situation := ⟨0, [], 0, text⟩

def State.situation (s : State ε) : Situation := ⟨s.mode, s.stack, s.score, s.text⟩

inductive Move where
  | stay
  | enter (mode : Nat)
  | leave

/-- What a rule does with a text. -/
structure Step where
  tokens : List Token
  /-- The text behind the tokens. -/
  rest : Text
  score : Int64 := 0
  move : Move := .stay

/-- The situation after a change of the mode. There may be no mode to return to. -/
def Situation.moved (c : Situation) : Move → Option Situation
  | .stay => some c
  | .enter mode => some { c with mode, stack := c.mode :: c.stack }
  | .leave =>
    match c.stack with
    | mode :: stack => some { c with mode, stack }
    | [] => none

def Situation.perform (c : Situation) (st : Step) : Option Situation :=
  { c with score := c.score + st.score, text := st.rest }.moved st.move

/-- From the mode 0, with the mode 1 to return to, different steps lead to different situations or
take different tokens. -/
theorem Situation.perform_inj {c : Situation} {st st' : Step}
    (hc : (c.mode, c.stack) = (0, [1])) (h : c.perform st = c.perform st')
    (htokens : st.tokens = st'.tokens) : st = st' := by
  obtain ⟨mode, stack, score, text⟩ := c
  obtain ⟨tokens, rest, delta, move⟩ := st
  obtain ⟨tokens', rest', delta', move'⟩ := st'
  cases hc
  cases htokens
  cases move with
  | stay => cases move' <;> simp_all [perform, moved]
  | enter mode => cases move' <;> simp_all [perform, moved]
  | leave => cases move' <;> simp_all [perform, moved]

/-- In a grammar with the given modes, `exec` takes the step on the text. -/
def Performs (names : List String) (exec : State ε → Outcome ε) (t : Text) (st : Step) : Prop :=
  ∀ s c, s.text = t → s.modeNames = names → s.situation.perform st = some c →
    ∃ s', exec s = (.ok true, s') ∧ s'.situation = c ∧
      s'.queue.toList = s.queue.toList ++ st.tokens

/-- The rule takes the step on the text, or declines. -/
def CompiledRule.Does (names : List String) (r : CompiledRule ε) (t : Text) : Option Step → Prop
  | none => ∀ s, s.text = t → r.exec s = (.ok false, s)
  | some st => Performs names r.exec t st

def Rule.Does (names : List String) (r : Rule ε) (t : Text) (st? : Option Step) : Prop :=
  ∃ c, r.compile = .ok c ∧ c.Does names t st?

variable {names : List String} {s s' : State ε} {t u rest : Text} {captures : Pattern.Captures}
  {kind : TokenType} {kinds : List TokenType} {parts : List Text} {score : Int64} {move : Move}

@[simp] theorem State.addScore_zero (s : State ε) : s.addScore 0 = s := by
  simp [addScore]

/-- The action does what the emission under the given types does, adds to the score and changes the
mode. -/
def Action.Marks (names : List String) (kinds : List TokenType) (score : Int64) (move : Move)
    (action : Action ε) : Prop :=
  ∀ captures t tokens rest, Performs names ((Action.emit kinds : Action ε).exec captures) t
    { tokens, rest } → Performs names (action.exec captures) t { tokens, rest, score, move }

/-- An emission cuts the parts of a match off the text. -/
theorem Action.performs_emit {groups : Nat} (hlen : kinds.length = parts.length)
    (hgroups : parts.length = max 1 groups) (hne : parts.flatten ≠ []) :
    Performs names ((Action.emit kinds : Action ε).exec (.ofParts groups parts))
      (parts.flatten ++ rest) { tokens := tokensOf kinds parts, rest } := by
  intro s c ht _ hc
  have htext : s.text = partsText (typed kinds parts) ++ rest := by
    rw [ht, partsText, flatten_typed hlen]
  obtain ⟨queue, hqueue, hlist⟩ := State.emitAll_parts htext
  have hnil : partSizes (typed kinds parts) ≠ [] := by
    intro h
    rw [← flatten_typed hlen, List.map_eq_nil_iff.1 h] at hne
    exact hne rfl
  refine ⟨{ s with text := rest, queue }, ?_, ?_, hlist⟩
  · simp only [exec, emission_ofParts hlen hgroups hne]
    exact hqueue
  · simpa [Situation.perform, Situation.moved, State.situation] using hc

namespace Action

variable {action : Action ε}

theorem marks_emit : Marks names kinds 0 .stay (.emit kinds : Action ε) :=
  fun _ _ _ _ h => h

theorem Marks.andThen_score (h : Marks names kinds score .stay action) (delta : Int64) :
    Marks names kinds (score + delta) .stay (action.andThen (.score delta)) := by
  intro captures t tokens rest hemit s c ht hnames hc
  obtain ⟨s', hs', hsituation, hq⟩ := h captures t tokens rest hemit s _ ht hnames rfl
  refine ⟨s'.addScore delta, by rw [exec_andThen, hs', Outcome.andThen_ok, exec], ?_, hq⟩
  cases hc
  simp only [State.situation, Situation.mk.injEq] at hsituation
  obtain ⟨hmode, hstack, hscore, htext⟩ := hsituation
  simp [State.situation, State.addScore, hmode, hstack, hscore, htext, Int64.add_assoc]

theorem Marks.andThen_enter (h : Marks names kinds score .stay action) {name : String}
    {mode : Nat} (hmode : names.idxOf? name = some mode) :
    Marks names kinds score (.enter mode) (action.andThen (.enter name)) := by
  intro captures t tokens rest hemit s c ht hnames hc
  obtain ⟨s', hs', hsituation, hq⟩ := h captures t tokens rest hemit s _ ht hnames rfl
  have hframe : s'.modeNames = names := by
    have hkept : (action.exec captures s).2.modeNames = names :=
      exec_kept (State.kept_modeNames names) captures
        (action.allows_of_forall (State.modeNames_keptBy names)) hnames
    rwa [hs'] at hkept
  have henter : s'.enter name = .ok { s' with mode, stack := s'.mode :: s'.stack } := by
    simp only [State.enter, hframe, hmode]
  refine ⟨{ s' with mode, stack := s'.mode :: s'.stack }, ?_, ?_, hq⟩
  · rw [exec_andThen, hs', Outcome.andThen_ok, exec, henter]
  · cases hc
    simp only [State.situation, Situation.mk.injEq] at hsituation
    obtain ⟨hmode, hstack, hscore, htext⟩ := hsituation
    simp [State.situation, hmode, hstack, hscore, htext]

theorem Marks.andThen_exit (h : Marks names kinds score .stay action) :
    Marks names kinds score .leave (action.andThen .exit) := by
  intro captures t tokens rest hemit s c ht hnames hc
  obtain ⟨s', hs', hsituation, hq⟩ := h captures t tokens rest hemit s _ ht hnames rfl
  simp only [State.situation, Situation.mk.injEq] at hsituation
  obtain ⟨hmode, hstack, hscore, htext⟩ := hsituation
  cases hkept : s.stack with
  | nil => simp [Situation.perform, Situation.moved, State.situation, hkept] at hc
  | cons mode stack =>
    have hexit : s'.exit = .ok { s' with mode, stack } := by
      simp only [State.exit, hstack, hkept]
    refine ⟨{ s' with mode, stack }, ?_, ?_, hq⟩
    · rw [exec_andThen, hs', Outcome.andThen_ok, exec, hexit]
    · simp only [Situation.perform, Situation.moved, State.situation, hkept,
        Option.some.injEq] at hc
      rw [← hc]
      simp [State.situation, hscore, htext]

end Action

namespace Rule

/-- What a rule does with a text is determined by the text. -/
theorem Does.unique {r : Rule ε} {st? st?' : Option Step} (h : r.Does names t st?)
    (h' : r.Does names t st?') : st? = st?' := by
  obtain ⟨c, hc, hdoes⟩ := h
  obtain ⟨c', hc', hdoes'⟩ := h'
  obtain rfl : c = c' := Except.ok.inj (hc.symm.trans hc')
  -- With a mode to return to any step can be taken, and its move can be told from where it leads.
  let s : State ε := { grammar := "", modeNames := names, text := t, stack := [1] }
  have hmoved : ∀ st : Step, ∃ d, s.situation.perform st = some d := by
    intro st
    cases hmove : st.move <;>
      simp [Situation.perform, Situation.moved, hmove, State.situation, s]
  have hperformed : ∀ st, c.Does names t (some st) → ∃ s', c.exec s = (.ok true, s') ∧
      s.situation.perform st = some s'.situation ∧ s'.queue.toList = st.tokens := by
    intro st hst
    obtain ⟨d, hd⟩ := hmoved st
    obtain ⟨s', hs', hsituation, hq⟩ := hst s d rfl rfl hd
    exact ⟨s', hs', hsituation ▸ hd, by simpa [s] using hq⟩
  cases st? with
  | none =>
    cases st?' with
    | none => rfl
    | some st' =>
      obtain ⟨s', hs', -⟩ := hperformed st' hdoes'
      rw [show c.exec s = _ from hdoes s rfl] at hs'
      cases hs'
  | some st =>
    obtain ⟨s₁, hs₁, hperform, hq⟩ := hperformed st hdoes
    cases st?' with
    | none =>
      rw [show c.exec s = _ from hdoes' s rfl] at hs₁
      cases hs₁
    | some st' =>
      obtain ⟨s₂, hs₂, hperform', hq'⟩ := hperformed st' hdoes'
      obtain rfl : s₁ = s₂ := congrArg Prod.snd (hs₁.symm.trans hs₂)
      exact congrArg some
        (Situation.perform_inj rfl (hperform.trans hperform'.symm) (hq.symm.trans hq'))

theorem Does.not_none {r : Rule ε} {st : Step} (h : r.Does names t (some st)) :
    ¬ r.Does names t none := by
  intro hnone
  cases h.unique hnone

/-- The source text stands for the pattern, whose matches are never empty and consist of parts that
the matchers read. -/
structure Splits (source : String) (p : Pattern) (bodies : List Pattern.Matcher) : Prop where
  compile : Pattern.compile (anchoredSource source.toList) = .ok p
  parts : p.parts? = some bodies
  nonempty : ∃ body ∈ bodies, body.nullable = false

/-- Whether the source text stands for a pattern with parts that are not empty together and satisfy
`check`. -/
def splits (source : String) (check : Pattern → List Pattern.Matcher → Bool) : Bool :=
  match Pattern.compile (anchoredSource source.toList) with
  | .ok p => p.parts?.any fun bodies => bodies.any (!·.nullable) && check p bodies
  | .error _ => false

theorem exists_of_splits {source : String} {check : Pattern → List Pattern.Matcher → Bool}
    (h : splits source check = true) :
    ∃ p bodies, Splits source p bodies ∧ check p bodies = true := by
  unfold splits at h
  split at h
  · next p hp =>
    obtain ⟨bodies, hbodies, hcheck⟩ := (Option.any_eq_true _ _).1 h
    obtain ⟨hnull, hcheck⟩ := Bool.and_eq_true_iff.1 hcheck
    exact ⟨p, bodies, ⟨hp, hbodies, by simpa using hnull⟩, hcheck⟩
  · cases h

variable {source : String} {p : Pattern} {bodies : List Pattern.Matcher} {action : Action ε}

theorem Splits.ne_nil (h : Splits source p bodies)
    (hparts : List.Forall₂ Pattern.Matcher.Matches bodies parts) : parts.flatten ≠ [] := by
  obtain ⟨body, hmem, hnull⟩ := h.nonempty
  clear h
  induction hparts with
  | nil => cases hmem
  | cons hbody _ ih =>
    rw [List.flatten_cons, Ne, List.append_eq_nil_iff]
    rintro ⟨hnil, hmore⟩
    rcases List.mem_cons.1 hmem with rfl | hmem
    · exact hbody.ne_nil hnull hnil
    · exact ih hmem hmore

theorem Splits.does_none (h : Splits source p bodies) (hsearch : p.search t = none) :
    (pattern source action).Does names t none := by
  refine ⟨.pattern p action, by rw [Rule.compile, h.compile]; rfl, ?_⟩
  intro s hs
  simp only [CompiledRule.exec, hs, hsearch]

theorem Splits.does_some (h : Splits source p bodies)
    (hmarks : action.Marks names kinds score move) (hkinds : kinds.length = bodies.length)
    (hparts : List.Forall₂ Pattern.Matcher.Matches bodies parts)
    (hsearch : p.search (parts.flatten ++ rest) = some (.ofParts p.groups parts)) :
    (pattern source action).Does names (parts.flatten ++ rest)
      (some { tokens := tokensOf kinds parts, rest, score, move }) := by
  have hlen := hparts.length_eq
  refine ⟨.pattern p action, by rw [Rule.compile, h.compile]; rfl, ?_⟩
  intro s c hs hnames hc
  have hemit : Performs names ((Action.emit kinds : Action ε).exec (.ofParts p.groups parts))
      (parts.flatten ++ rest) { tokens := tokensOf kinds parts, rest } := Action.performs_emit
    (hkinds.trans hlen) (hlen ▸ Pattern.length_of_parts? h.parts) (h.ne_nil hparts)
  obtain ⟨s', hs', hrest⟩ := hmarks _ _ _ _ hemit s c hs hnames hc
  exact ⟨s', by simp only [CompiledRule.exec, hs, hsearch, hs'], hrest⟩

/-- A pattern rule declines, or it cuts the parts of a match off the text. -/
theorem Splits.does (h : Splits source p bodies)
    (hmarks : action.Marks names kinds score move) (hkinds : kinds.length = bodies.length)
    (t : Text) :
    (p.search t = none ∧ (pattern source action).Does names t none) ∨
      ∃ parts rest, t = parts.flatten ++ rest ∧
        List.Forall₂ Pattern.Matcher.Matches bodies parts ∧
        p.search t = some (.ofParts p.groups parts) ∧
        (pattern source action).Does names t
          (some { tokens := tokensOf kinds parts, rest, score, move }) := by
  cases hsearch : p.search t with
  | none => exact .inl ⟨rfl, h.does_none hsearch⟩
  | some captures =>
    obtain ⟨parts, rest, rfl, hparts, rfl⟩ := Pattern.parts_of_search h.parts hsearch
    exact .inr ⟨parts, rest, rfl, hparts, rfl, h.does_some hmarks hkinds hparts hsearch⟩

/-- A rule does not decline a text that begins with a character that is enough for a match. -/
theorem Splits.not_none {set : CharSet} {c : Char} (h : Splits source p bodies)
    (hmarks : action.Marks names kinds score move) (hkinds : kinds.length = bodies.length)
    (hset : set ∈ p.leads) (hc : set.contains c = true) (t : Text) :
    ¬ (pattern source action).Does names (c :: t) none := by
  rcases h.does hmarks hkinds (c :: t) with ⟨hnone, -⟩ | ⟨_, _, -, -, -, hdoes⟩
  · obtain ⟨captures, hsome⟩ := Pattern.search_of_leads hset hc t
    rw [hnone] at hsome
    cases hsome
  · exact hdoes.not_none

/-- Whether no match begins with one of the characters. -/
def avoids (cs : List Char) (_ : Pattern) : List Pattern.Matcher → Bool
  | first :: _ => !first.nullable && first.firsts.all fun set => cs.all (!set.contains ·)
  | [] => false

/-- A rule declines a text that begins with a character with which no match begins. -/
theorem does_none_of_avoids {cs : List Char} {c : Char} (h : splits source (avoids cs) = true)
    (hc : c ∈ cs) (t : Text) : (pattern source action).Does names (c :: t) none := by
  obtain ⟨p, bodies, h, havoids⟩ := exists_of_splits h
  refine h.does_none ?_
  cases hsearch : p.search (c :: t) with
  | none => rfl
  | some captures =>
    obtain ⟨parts, rest, ht, hparts, -⟩ := Pattern.parts_of_search h.parts hsearch
    cases hparts with
    | nil => cases havoids
    | @cons first part bodies parts hpart _ =>
      obtain ⟨hnull, hfirsts⟩ := Bool.and_eq_true_iff.1 havoids
      rw [Bool.not_eq_true'] at hnull
      obtain ⟨d, part, rfl⟩ := List.exists_cons_of_ne_nil (hpart.ne_nil hnull)
      obtain ⟨rfl, -⟩ := List.cons.inj ht
      obtain ⟨set, hset, hcontains⟩ := hpart.exists_first
      have hcs := List.all_eq_true.1 (List.all_eq_true.1 hfirsts set hset) c hc
      rw [hcontains] at hcs
      cases hcs

/-- Whether the pattern matches one character of the set, and always does if such a character comes
first. -/
def takesOne (s : CharSet) (p : Pattern) (bodies : List Pattern.Matcher) : Bool :=
  bodies = [.set s] && p.leads.contains s

/-- A rule for one character of a set declines exactly if another character comes first. -/
theorem Splits.does_one {set : CharSet} {c : Char} (h : Splits source p bodies)
    (hone : takesOne set p bodies = true) (hmarks : action.Marks names [kind] score move)
    (t : Text) :
    (pattern source action).Does names (c :: t)
      (if set.contains c = true then some { tokens := [⟨some kind, [c]⟩], rest := t, score, move }
       else none) := by
  obtain ⟨hbodies, hleads⟩ := Bool.and_eq_true_iff.1 hone
  have hbodies := of_decide_eq_true hbodies
  subst hbodies
  have hsearch := Pattern.search_set (c := c) h.parts (List.contains_iff_mem.1 hleads) t
  split
  · next hc =>
    rw [if_pos hc] at hsearch
    have hparts : List.Forall₂ Pattern.Matcher.Matches [.set set] [[c]] :=
      .cons ⟨⟨none, [c], 0, []⟩, _, .set rfl hc⟩ .nil
    exact h.does_some hmarks rfl hparts hsearch
  · next hc =>
    rw [if_neg hc] at hsearch
    exact h.does_none hsearch

variable {cond : Char → Bool} {scanner : Scanner} {token : Token}

theorem does_scanIf_none (h : t.head?.any cond = false) :
    (procedure (.scanIf cond scanner) : Rule ε).Does names t none := by
  refine ⟨_, rfl, ?_⟩
  intro s hs
  simp only [CompiledRule.exec, Procedure.scanIf, Procedure.run, hs, h]
  rfl

theorem does_scanIf_some (h : t.head?.any cond = true)
    (hrun : scanner.run t = some (token, rest)) (hne : token.text ≠ []) :
    (procedure (.scanIf cond scanner) : Rule ε).Does names t
      (some { tokens := [token], rest }) := by
  refine ⟨_, rfl, ?_⟩
  intro s c hs _ hc
  have hfull : ¬ token.isEmpty = true := by simpa [Token.isEmpty] using hne
  have hscan : s.scan scanner = (true, { s with text := rest }.push token) := by
    simp only [State.scan, hs, hrun, State.accept, if_neg hfull]
  refine ⟨{ s with text := rest }.push token, ?_, ?_, by simp [State.push]⟩
  · simp only [CompiledRule.exec, Procedure.scanIf, Procedure.run, hs, h, if_true,
      Procedure.ofScanner, hscan]
  · simpa [Situation.perform, Situation.moved, State.situation, State.push] using hc

end Rule

end ModalLexer
