import ModalLexer.Proofs.Engine.Lexing
import ModalLexer.Proofs.Engine.Transfer
import ModalLexer.Proofs.Language.Ini.Steps

/-! # Settings files line by line

A scan is in the first mode, or between the sign behind a name and the end of the line in the second
one. So it is in the first mode behind every line feed, and the lines before it have no influence on
those behind it.
-/

namespace ModalLexer

def Situation.extend (c : Situation) (b : Text) : Situation := { c with text := c.text ++ b }

theorem Situation.perform_extend (c : Situation) (st : Step) (b : Text) :
    (c.extend b).perform (st.extend b) = (c.perform st).map (·.extend b) := by
  simp only [perform, moved, extend, Step.extend]
  split
  · rfl
  · rfl
  · split <;> rfl

theorem Step.Sound.extend {st : Step} {t : Text} (h : st.Sound t) (b : Text) :
    (st.extend b).Sound (t ++ b) :=
  ⟨h.some_token, by simp [Step.extend, ← h.text], h.not_empty, h.not_stop⟩

end ModalLexer

namespace ModalLexer.Language.Ini

variable {ε : Type} {a b : Text} {c c' : Situation} {st : Step} {ts : List Token}

theorem grammar_modes :
    (grammar : Grammar ε).modes? = some [⟨"root", root⟩, ⟨"value", value⟩] := rfl

theorem exists_compile : ∃ compiled, (grammar : Grammar ε).compile = .ok compiled := by
  have hrules : ∀ mode, mode = 0 ∨ mode = 1 → ∀ r ∈ (rulesOf mode : List (Rule ε)),
      ∃ c, r.compile = .ok c := by
    intro mode hmode r hr
    rcases decides_rules (c := 'a') (t := []) hmode (.inl rfl) r hr with
      ⟨⟨c, hc, -⟩, -⟩ | ⟨_, ⟨⟨c, hc, -⟩, -⟩, -⟩ <;> exact ⟨c, hc⟩
  refine Grammar.exists_compile grammar_modes (List.cons_ne_nil _ _) (by simp) ?_
  simp only [List.forall_mem_cons, List.not_mem_nil, false_implies, implies_true, and_true]
  exact ⟨⟨by simp [root], hrules 0 (.inl rfl)⟩, by simp [value], hrules 1 (.inr rfl)⟩

/-- The scan is in the first mode, or in the second one with the first one to return to. -/
def InMode (c : Situation) : Prop := c.mode = 0 ∧ c.stack = [] ∨ c.mode = 1 ∧ c.stack = [0]

theorem InMode.mode (h : InMode c) : c.mode = 0 ∨ c.mode = 1 := h.imp And.left And.left

/-- A step that ends in the second mode takes no line feed. -/
theorem InMode.step (h : InMode c) (hst : StepIn c.mode st) :
    ∃ c', c.perform st = some c' ∧ InMode c' ∧ (c'.mode = 1 → '\n' ∉ Token.join st.tokens) := by
  cases hst with
  | stays hline hmove =>
    refine ⟨{ c with score := c.score + st.score, text := st.rest },
      by simp only [Situation.perform, Situation.moved, hmove], h, ?_⟩
    intro hone
    exact hline.resolve_left (by rw [show c.mode = 1 from hone]; decide)
  | enters hmode hline hmove =>
    obtain ⟨-, hstack⟩ := h.resolve_right (by simp [hmode])
    refine ⟨_, by simp only [Situation.perform, Situation.moved, hmove]; rfl, .inr ⟨rfl, ?_⟩,
      fun _ => hline⟩
    simp [hmode, hstack]
  | leaves hmode hmove =>
    obtain ⟨-, hstack⟩ := h.resolve_left (by simp [hmode])
    exact ⟨{ c with mode := 0, stack := [], score := c.score + st.score, text := st.rest },
      by simp only [Situation.perform, Situation.moved, hmove, hstack], .inl ⟨rfl, rfl⟩, by simp⟩

/-- As long as there is text a step can be taken, and the same one in front of new lines. -/
theorem InMode.exists_stepsTo (h : InMode c) (hne : c.text ≠ []) (hjoin : Joins c.text b) :
    ∃ st c', (grammar : Grammar ε).StepsTo c st c' ∧
      (grammar : Grammar ε).StepsTo (c.extend b) (st.extend b) (c'.extend b) ∧
      InMode c' ∧ (c'.mode = 1 → '\n' ∉ Token.join st.tokens) := by
  obtain ⟨st, hsel, hsound, hst⟩ := exists_step (ε := ε) h.mode hne hjoin
  obtain ⟨c', hperform, h'⟩ := h.step hst
  have hmode : ([⟨"root", root⟩, ⟨"value", value⟩] : List (Mode ε))[c.mode]?
      = some ⟨if c.mode = 0 then "root" else "value", rulesOf c.mode⟩ := by
    rcases h.mode with hmode | hmode <;> rw [hmode] <;> rfl
  have hfirst : Selects (fun r : Rule ε => r.Does modeNames c.text) (rulesOf c.mode) st :=
    hsel.map (f := id) fun r st? hboth => by simpa using hboth.1
  have hsecond : Selects (fun r : Rule ε => r.Does modeNames (c.text ++ b)) (rulesOf c.mode)
      (st.extend b) := hsel.map fun r st? hboth => hboth.2
  exact ⟨st, c', ⟨hsound, hperform, _, _, grammar_modes, hmode, hfirst⟩,
    ⟨hsound.extend b, by rw [Situation.perform_extend, hperform]; rfl, _, _, grammar_modes, hmode,
      hsecond⟩, h'⟩

theorem keeps_inMode : (grammar : Grammar ε).Keeps fun _ c => InMode c := by
  intro ts c h hne
  obtain ⟨st, c', hstep, -, h', -⟩ := h.exists_stepsTo (ε := ε) hne (b := []) (.inl rfl)
  exact ⟨st, c', hstep, h'⟩

/-- The scan of a text that ends with a line feed, side by side with that of the text with `b`
behind it. -/
structure Accompanied (a b : Text) (g : Grammar ε) (ts : List Token) (c : Situation) : Prop where
  mode : InMode c
  text : c.text.getLast? = some '\n' ∨ c.text = [] ∧ c.mode = 0
  lexes : g.Lexes (.start (a ++ b)) ts (c.extend b)

theorem keeps_accompanied (hb : b.head? ≠ some '\n' ∧ b.head? ≠ some '\r') :
    (grammar : Grammar ε).Keeps (Accompanied a b (grammar : Grammar ε)) := by
  intro ts c h hne
  have hlast : c.text.getLast? = some '\n' := h.text.resolve_right fun hnil => hne hnil.1
  obtain ⟨st, c', hstep, hstep', hmode, hline⟩ :=
    h.mode.exists_stepsTo (ε := ε) hne (b := b) (.inr ⟨hlast, hb⟩)
  have hmore := Grammar.Lexes.one hstep'
  refine ⟨st, c', hstep, hmode, ?_, h.lexes.trans hmore⟩
  have htext := hstep.1.text
  rw [hstep.text]
  by_cases hrest : st.rest = []
  · -- The step has taken the last line feed, so it does not end in the second mode.
    have hmem : '\n' ∈ Token.join st.tokens := by
      rw [hrest, List.append_nil] at htext
      exact htext ▸ List.mem_of_getLast? hlast
    exact .inr ⟨hrest, hmode.mode.resolve_right fun hone => hline hone hmem⟩
  · rw [← htext, List.getLast?_append_of_ne_nil _ hrest] at hlast
    exact .inl hlast

/-- The lines of a text are scanned independently: behind a line feed a scan goes on like a new one,
with the score of the lines before added to its own. -/
theorem scan_append (ha : a.getLast? = some '\n')
    (hb : b.head? ≠ some '\n' ∧ b.head? ≠ some '\r') :
    ∃ first second both,
      (grammar : Grammar ε).scan a [] (a.byteSize + 1) = .ok first ∧
      (grammar : Grammar ε).scan b [] (b.byteSize + 1) = .ok second ∧
      (grammar : Grammar ε).scan (a ++ b) [] ((a ++ b).byteSize + 1) = .ok both ∧
      both.answers.map Prod.fst = first.answers.map Prod.fst ++ second.answers.map Prod.fst ∧
      both.stop = second.stop ∧
      both.last.state.text = second.last.state.text ∧
      both.last.state.mode = second.last.state.mode ∧
      both.last.state.depth = second.last.state.depth ∧
      both.last.state.score = first.last.state.score + second.last.state.score := by
  obtain ⟨compiled, hcompiled⟩ := exists_compile (ε := ε)
  have hstart : InMode (.start a) := .inl ⟨rfl, rfl⟩
  obtain ⟨ts, c, hfirst, hend, h⟩ := (keeps_accompanied (ε := ε) (a := a) hb).exists_lexes
    [] (c := .start a) ⟨hstart, .inl ha, .refl _⟩
  obtain ⟨us, d, hsecond, hend', -⟩ := (keeps_inMode (ε := ε)).exists_lexes []
    (c := .start b) (.inl ⟨rfl, rfl⟩)
  -- Behind the lines of `a` the scan of both texts is at the beginning of `b`, but for the score.
  have hboth : (grammar : Grammar ε).Lexes (.start (a ++ b)) (ts ++ us)
      { d with score := d.score + c.score } := by
    have hmode : c.mode = 0 ∧ c.stack = [] := by
      rcases h.text with hlast | ⟨-, hzero⟩
      · rw [hend] at hlast; cases hlast
      · exact h.mode.resolve_right (by simp [hzero])
    have hreset : c.extend b
        = { Situation.start b with score := (Situation.start b).score + c.score } := by
      simp [Situation.extend, Situation.start, hend, hmode]
    exact h.lexes.trans (hreset ▸ hsecond.addScore c.score)
  obtain ⟨first, hrun, htokens, -, hsituation⟩ :=
    Engine.scan_of_lexes plain_grammar hcompiled hfirst hend
  obtain ⟨second, hrun', htokens', hstop', hsituation'⟩ :=
    Engine.scan_of_lexes plain_grammar hcompiled hsecond hend'
  obtain ⟨both, hrun'', htokens'', hstop'', hsituation''⟩ :=
    Engine.scan_of_lexes plain_grammar hcompiled hboth hend'
  subst hsituation hsituation'
  simp only [State.situation, Situation.mk.injEq] at hsituation''
  obtain ⟨hmode, hstack, hscore, htext⟩ := hsituation''
  refine ⟨first, second, both, hrun, hrun', hrun'', ?_, hstop''.trans hstop'.symm, htext, hmode,
    congrArg List.length hstack, ?_⟩
  · rw [htokens'', htokens, htokens']
  · rw [hscore, Int64.add_comm]

/-- A string that is not closed ends with its line. -/
theorem scan_append_open_string :
    ∃ first second both,
      (grammar : Grammar Unit).scan "a = \"b\n".toList [] 8 = .ok first ∧
      (grammar : Grammar Unit).scan "[c".toList [] 3 = .ok second ∧
      (grammar : Grammar Unit).scan "a = \"b\n[c".toList [] 10 = .ok both ∧
      both.answers.map Prod.fst = first.answers.map Prod.fst ++ second.answers.map Prod.fst ∧
      both.stop = second.stop ∧
      both.last.state.text = second.last.state.text ∧
      both.last.state.mode = second.last.state.mode ∧
      both.last.state.depth = second.last.state.depth ∧
      both.last.state.score = first.last.state.score + second.last.state.score :=
  scan_append (a := "a = \"b\n".toList) (b := "[c".toList) (by decide) (by decide)

end ModalLexer.Language.Ini
