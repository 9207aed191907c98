import ModalLexer.Proofs.Engine.Lockstep
import ModalLexer.Proofs.Language.C.Nesting

/-! # Tokens do not depend on the nesting

A nested mode tries the closer that ends it first, and then the rules of every mode. One of these
takes any closer as the same token, and none in front of it claims a closer. So scans of one text
return the same tokens whatever modes they are in.
-/

namespace ModalLexer.Language.C

variable {ε : Type} {t : Text} {c : Char} {st : Step}

theorem Bracket.closer_inj {b b' : Bracket} (h : b.closer = b'.closer) : b = b' := by
  cases b <;> cases b' <;> simp_all [closer]

theorem Bracket.opener_ne_closer (b b' : Bracket) : b.opener ≠ b'.closer := by
  cases b <;> cases b' <;> decide

theorem Bracket.closer_mem (b : Bracket) : b.closer ∈ [')', ']', '\x7d'] := by
  cases b <;> decide

/-- No rule in front of the one for all closers claims a closer. -/
theorem selects_unmatched (b : Bracket) (t : Text) :
    Selects (fun r : Rule ε => r.Does modeNames (b.closer :: t)) (body none)
      { tokens := [⟨some .codeDelimiter, [b.closer]⟩], rest := t, score := -1 } := by
  have hclosers := does_one (ε := ε) (c := b.closer) splits_closers
    (marks_delimiter.andThen_score (-1)) t
  rw [CharSet.contains_ofChars, decide_eq_true b.closer_mem, if_pos rfl] at hclosers
  refine Selects.append_declined (.here hclosers) ?_
  simp only [List.forall_mem_append, List.forall_mem_cons, List.not_mem_nil, false_implies,
    implies_true, and_true, Option.toList_none, List.map_nil, true_and]
  refine ⟨⟨?_, ?_, ?_, ?_, ?_, ?_, ?_, ?_, ?_, ?_⟩, fun r hr => ?_⟩
  · exact Rule.does_scanIf_none (by cases b <;> rfl)
  · exact Rule.does_none_of_avoids (by decide +kernel) b.closer_mem t
  · exact Rule.does_none_of_avoids (by decide +kernel) b.closer_mem t
  · exact Rule.does_none_of_avoids (by decide +kernel) b.closer_mem t
  · exact Rule.does_none_of_avoids (by decide +kernel) b.closer_mem t
  · exact Rule.does_none_of_avoids (by decide +kernel) b.closer_mem t
  · exact Rule.does_scanIf_none (by cases b <;> rfl)
  · exact Rule.does_scanIf_none (by cases b <;> rfl)
  · exact does_identifier_none (by cases b <;> rfl)
  · exact does_number_none (.inl (by cases b <;> rfl))
  · rw [nestings_eq, List.map_map] at hr
    obtain ⟨b', -, rfl⟩ := List.mem_map.1 hr
    have hopener := does_opener (ε := ε) (c := b.closer) b' t
    rwa [if_neg (b'.opener_ne_closer b).symm] at hopener

/-- A step of the outermost mode that takes no closer is a step of the same kind in any mode. -/
theorem StepIn.of_outermost {inside : Option Bracket} (h : StepIn none st)
    (hsound : st.Sound (c :: t)) (hc : ∀ b : Bracket, c ≠ b.closer) : StepIn inside st := by
  cases h with
  | plain hscore hmove hkind => exact .plain hscore hmove hkind
  | opens b rest => exact .opens b rest
  | closes b rest h => cases h
  | unmatched b rest h =>
    obtain ⟨hcloser, -⟩ := List.cons.inj hsound.text
    exact absurd hcloser.symm (hc b)

/-- What a step takes off the text is the same in every mode. -/
theorem exists_uniform_step (hne : t ≠ []) :
    ∃ ts rest, ∀ inside : Option Bracket, ∃ st,
      Selects (fun r : Rule ε => r.Does modeNames t) (body (inside.map (·.nesting.closer))) st ∧
        st.Sound t ∧ StepIn inside st ∧ st.tokens = ts ∧ st.rest = rest := by
  obtain ⟨c, t, rfl⟩ := List.exists_cons_of_ne_nil hne
  by_cases hcloser : ∃ b : Bracket, c = b.closer
  · obtain ⟨b, rfl⟩ := hcloser
    have hsound : ∀ score move, Step.Sound
        ⟨[⟨some .codeDelimiter, [b.closer]⟩], t, score, move⟩ (b.closer :: t) :=
      fun _ _ => Step.sound_one (u := [b.closer]) (by decide) (by simp)
    refine ⟨[⟨some .codeDelimiter, [b.closer]⟩], t, ?_⟩
    intro inside
    cases inside with
    | none => exact ⟨_, selects_unmatched b t, hsound _ _, .unmatched b t nofun, rfl, rfl⟩
    | some b' =>
      have hdoes := does_closer (ε := ε) (c := b.closer) b' t
      by_cases hb : b' = b
      · subst hb
        rw [if_pos rfl] at hdoes
        exact ⟨_, .here hdoes, hsound _ _, .closes b' t rfl, rfl, rfl⟩
      · rw [if_neg fun hc => hb (Bracket.closer_inj hc).symm] at hdoes
        exact ⟨_, .later hdoes (selects_unmatched b t), hsound _ _,
          .unmatched b t fun h => hb (Option.some.inj h), rfl, rfl⟩
  · have hc : ∀ b : Bracket, c ≠ b.closer := fun b hb => hcloser ⟨b, hb⟩
    obtain ⟨st, hsel, hsound, hst⟩ := exists_step (ε := ε) none hne
    refine ⟨st.tokens, st.rest, ?_⟩
    intro inside
    refine ⟨st, ?_, hsound, hst.of_outermost hsound hc, rfl, rfl⟩
    cases inside with
    | none => exact hsel
    | some b =>
      have hdoes := does_closer (ε := ε) (c := c) b t
      rw [if_neg (hc b)] at hdoes
      exact .later hdoes hsel

/-- The situations are between brackets, not necessarily the same, and have the same text. -/
def SameText (c c' : Situation) : Prop :=
  (∃ opened, Within opened c) ∧ (∃ opened, Within opened c') ∧ c.text = c'.text

theorem aligns_sameText : (grammar : Grammar ε).Aligns SameText := by
  rintro c c' ⟨hc, hc', htext⟩
  refine ⟨htext, ?_⟩
  intro hne
  obtain ⟨ts, rest, hsteps⟩ := exists_uniform_step (ε := ε) hne
  have hstep : ∀ d : Situation, (∃ opened, Within opened d) → d.text = c.text →
      ∃ st d', (grammar : Grammar ε).StepsTo d st d' ∧ st.tokens = ts ∧
        (∃ opened, Within opened d') ∧ d'.text = rest := by
    rintro d ⟨opened, hopened⟩ hd
    obtain ⟨st, hsel, hsound, hst, htokens, hrest⟩ := hsteps opened.head?
    rw [← hd] at hsel hsound
    obtain ⟨d', hperform, hwithin, -⟩ := Within.step (b := ⟨opened, 0⟩) hopened hst
    have hto : (grammar : Grammar ε).StepsTo d st d' := ⟨hsound, hperform, allModes, modeOf _,
      grammar_modes, hopened.getElem?_allModes, hsel⟩
    exact ⟨st, d', hto, htokens, ⟨_, hwithin⟩, hto.text.trans hrest⟩
  obtain ⟨st, d, hto, htokens, hd, hrest⟩ := hstep c hc rfl
  obtain ⟨st', d', hto', htokens', hd', hrest'⟩ := hstep c' hc' htext.symm
  exact ⟨st, st', d, d', hto, hto', htokens.trans htokens'.symm, hd, hd',
    hrest.trans hrest'.symm⟩

/-- Enters modes one after the other. -/
def enterAll (e : Engine ε) (modes : List String) : Except RuleError (Engine ε) :=
  modes.foldlM (fun e mode => (e.state.enter mode).map fun s => { e with state := s }) e

theorem exists_enterAll {opened : List Bracket} {c : Situation} {e : Engine ε}
    (h : Engine.At grammar c [] e) (hc : Within opened c) (brackets : List Bracket) :
    ∃ c' e', enterAll e (brackets.map Bracket.modeName) = .ok e' ∧ Engine.At grammar c' [] e' ∧
      Within (brackets.reverse ++ opened) c' ∧ c'.text = c.text := by
  induction brackets generalizing opened c e with
  | nil => exact ⟨c, e, rfl, h, hc, rfl⟩
  | cons b brackets ih =>
    obtain ⟨hnames, -⟩ := Grammar.getElem?_of_compile h.modes grammar_modes
    have hmode : e.state.modeNames.idxOf? b.modeName = some b.mode := by
      rw [h.names, hnames, allModes_names]
      exact idxOf?_modeName b
    have henter : e.state.enter b.modeName
        = .ok { e.state with mode := b.mode, stack := e.state.mode :: e.state.stack } := by
      simp only [State.enter, hmode]
    have hat : Engine.At grammar { c with mode := b.mode, stack := c.mode :: c.stack } []
        { e with state := { e.state with
          mode := b.mode, stack := e.state.mode :: e.state.stack } } := by
      obtain ⟨hmodes, hplain, hnames, hlive, hunmarked, hsituation, hqueue⟩ := h
      exact ⟨hmodes, hplain, hnames, hlive, hunmarked, by rw [← hsituation]; rfl, hqueue⟩
    have hwithin : Within (b :: opened) { c with mode := b.mode, stack := c.mode :: c.stack } :=
      congrArg (b.mode :: ·) hc
    obtain ⟨c', e', he', hat', hc', htext⟩ := ih hat hwithin
    refine ⟨c', e', ?_, hat', by simpa using hc', htext⟩
    rw [← he', enterAll, List.map_cons, List.foldlM_cons, henter]
    rfl

/-- Whatever brackets the modes that are entered at the start belong to, the scan returns the same
tokens and comes to the same end. Behind each request the texts left, the tokens queued and the
stops are the same. -/
theorem tokens_independent_of_nesting (text : Text) (brackets : List Bracket) :
    ∃ e nested r r', Engine.start (grammar : Grammar ε) text = .ok e ∧
      enterAll e (brackets.map Bracket.modeName) = .ok nested ∧
      Within brackets.reverse nested.state.situation ∧
      e.run (text.byteSize + 1) = .ok r ∧ nested.run (text.byteSize + 1) = .ok r' ∧
      r'.answers.map Prod.fst = r.answers.map Prod.fst ∧
      r.stop = Engine.endOfText ∧ r'.stop = Engine.endOfText ∧ r.Alike r' := by
  obtain ⟨compiled, hcompiled⟩ := exists_compile (ε := ε)
  obtain ⟨e, hstart, hat⟩ := Engine.exists_start plain_grammar hcompiled text
  have hroot : Within [] (.start text) := rfl
  obtain ⟨c, nested, henter, hat', hc, htext⟩ := exists_enterAll hat hroot brackets
  obtain ⟨r, r', hr, hr', halike, hend⟩ := Engine.exists_run_alike aligns_sameText
    ⟨⟨_, hroot⟩, ⟨_, hc⟩, htext.symm⟩ hat hat' (by simp)
    (show ([] : List Token).length + text.byteSize < text.byteSize + 1 by simp)
  refine ⟨e, nested, r, r', hstart, henter, ?_, hr, hr', halike.tokens.symm, hend,
    halike.stop.symm.trans hend, halike⟩
  rw [hat'.situation]
  simpa using hc

end ModalLexer.Language.C
