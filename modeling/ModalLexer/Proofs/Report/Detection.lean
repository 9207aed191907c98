import ModalLexer.Proofs.Catalog.Candidates
import ModalLexer.Proofs.Detection.Selection
import ModalLexer.Report.Detection

/-! # The marked line

A report on a detection knows the selected grammar by its name only. So it marks the line of the
candidate that was chosen, and with it the lines of all candidates that stand for the same grammar.
-/

namespace ModalLexer

variable {ε : Type}

/-- Whether a line begins with a star. -/
def marked (line : String) : Bool := line.toList.head? = some '*'

theorem CandidateScore.marked_line_iff {selected : Option String} {c : CandidateScore} :
    marked (c.line selected) ↔ selected = some c.grammar := by
  by_cases h : selected = some c.grammar <;> simp [marked, line, h]

namespace DetectionReport

/-- The lines of the candidates. -/
def lines (r : DetectionReport) : List String := r.candidates.map (·.line r.selected)

/-- The line at the position is marked, and no other one. -/
def MarksOnly (r : DetectionReport) (position : Nat) : Prop :=
  ∀ i line, r.lines[i]? = some line → (marked line ↔ i = position)

theorem human_eq (r : DetectionReport) :
    r.human = String.join (r.lines.map (· ++ "\n")) ++ "\n" ++ r.verdict ++ "\n" := by
  rw [human, lines, List.map_map]
  rfl

variable {c : Catalog ε} {candidates : List (GrammarInfo ε)} {names : List String}
  {scored before after : List (Scored ε)} {best : Scored ε} {text : Text} {markers : List Text}
  {limit : Nat}

theorem getElem?_lines (i : Nat) : (ofScores scored (some best)).lines[i]?
    = scored[i]?.map fun s => s.candidate.line (some best.info.name) := by
  simp [lines, ofScores, Function.comp_def]

/-- The lines of the selected grammar are marked, as no other grammar has its name. -/
theorem marked_line_iff (h : c.WellFormed) {s : Scored ε} (hs : s.info ∈ c.all)
    (hbest : best.info ∈ c.all) :
    marked (s.candidate.line (some best.info.name)) ↔ s.info = best.info := by
  rw [CandidateScore.marked_line_iff, Option.some_inj]
  constructor
  · intro hname
    exact h.name_inj hs hbest hname.symm
  · intro hinfo
    exact congrArg GrammarInfo.name hinfo.symm

theorem mem_others_iff {s : Scored ε} : s ∈ before ++ after ↔
    ∃ i, i ≠ before.length ∧ (before ++ best :: after)[i]? = some s := by
  rw [← List.mem_eraseIdx_iff_getElem?, List.eraseIdx_append_of_length_le (Nat.le_refl _),
    Nat.sub_self, List.eraseIdx_cons_zero]

theorem marksOnly_iff (h : c.WellFormed)
    (hall : ∀ s ∈ before ++ best :: after, s.info ∈ c.all) :
    (ofScores (before ++ best :: after) (some best)).MarksOnly before.length ↔
      ∀ s ∈ before ++ after, s.info ≠ best.info := by
  have hbest : best.info ∈ c.all := hall best (by simp)
  constructor
  · intro honly s hs hinfo
    obtain ⟨i, hi, hget⟩ := mem_others_iff.1 hs
    have hline := (honly i _ (by rw [getElem?_lines, hget]; rfl)).1
    exact hi (hline ((marked_line_iff h (hall s (List.mem_of_getElem? hget)) hbest).2 hinfo))
  · intro hothers i line hline
    rw [getElem?_lines, Option.map_eq_some_iff] at hline
    obtain ⟨s, hget, rfl⟩ := hline
    rw [marked_line_iff h (hall s (List.mem_of_getElem? hget)) hbest]
    constructor
    · intro hinfo
      by_contra hi
      exact hothers s (mem_others_iff.2 ⟨i, hi, hget⟩) hinfo
    · rintro rfl
      rw [List.getElem?_append_right (Nat.le_refl _), Nat.sub_self] at hget
      cases hget
      rfl

/-- If candidates have scores, the report names the first one of the highest score, and marks its
line. No other line is marked exactly if no other one of the candidates with scores is the same
grammar, so in particular if no candidate is given twice. -/
theorem chosen_line_is_marked {start : Catalog ε} {infos : List (GrammarInfo ε)}
    {r : DetectionReport} (hstart : start = ∅ ∨ start = .builtin)
    (hc : start.registerAll infos = c) (hcandidates : c.candidates names = .ok candidates)
    (hscored : Detection.scores text markers limit candidates = .ok scored) (hne : scored ≠ [])
    (hr : .ofScores scored (Detection.best? scored) = r) :
    ∃ before best after, scored = before ++ best :: after ∧
      Detection.best? scored = some best ∧
      (∀ s ∈ before, s.score < best.score) ∧ (∀ s ∈ after, s.score ≤ best.score) ∧
      r.human = String.join (r.lines.map (· ++ "\n")) ++ "\n"
        ++ ("Selected: " ++ best.info.name) ++ "\n" ∧
      r.lines.length = scored.length ∧
      (∃ line, r.lines[before.length]? = some line ∧ marked line ∧
        line = best.candidate.line (some best.info.name)) ∧
      (r.MarksOnly before.length ↔ ∀ s ∈ before ++ after, s.info ≠ best.info) ∧
      (candidates.Nodup → r.MarksOnly before.length) := by
  have hwell : c.WellFormed := hc ▸ (Catalog.wellFormed_of_start hstart).registerAll infos
  have hall : ∀ s ∈ scored, s.info ∈ c.all := fun s hs =>
    hwell.mem_all_of_candidates hcandidates ((Detection.mem_scores_iff hscored).1 hs).1
  have hsublist := Detection.scores_sublist hscored
  cases hbest : Detection.best? scored with
  | none => exact absurd (Detection.best?_eq_none_iff.1 hbest) hne
  | some best =>
    rw [hbest] at hr
    obtain ⟨before, after, rfl, hbefore, hafter⟩ := Detection.best?_eq_some_iff.1 hbest
    have honly := marksOnly_iff hwell hall
    subst hr
    refine ⟨before, best, after, rfl, rfl, hbefore, hafter, human_eq _, ?_, ?_, honly, ?_⟩
    · simp [lines, ofScores]
    · refine ⟨_, by simp [getElem?_lines], ?_, rfl⟩
      exact (marked_line_iff hwell (hall best (by simp)) (hall best (by simp))).2 rfl
    · intro hnodup
      have hinfos := hnodup.sublist hsublist
      rw [List.map_append, List.map_cons, List.nodup_middle, List.nodup_cons,
        ← List.map_append] at hinfos
      exact honly.2 fun s hs hinfo => hinfos.1 (hinfo ▸ List.mem_map_of_mem hs)

/-- The languages are equally good for a line break. The first one is chosen, and no other line is
marked than that of it. -/
theorem chosen_line_is_marked_on_tie :
    ∃ (infos : List (GrammarInfo Unit)) (scored : List (Scored Unit)) (position : Nat),
      Catalog.builtin.candidates ["dosini", "cpp"] = .ok infos ∧
      Detection.scores ['\n'] [] 2 infos = .ok scored ∧
      (ofScores scored (Detection.best? scored)).MarksOnly position ∧
      (ofScores scored (Detection.best? scored)).lines[position]?
        = some "* ini               0" := by
  have hall : (Catalog.builtin : Catalog Unit).all = [Catalog.cInfo, Catalog.iniInfo] :=
    Catalog.all_builtin
  have hinfos : (Catalog.builtin : Catalog Unit).candidates ["dosini", "cpp"]
      = .ok [Catalog.iniInfo, Catalog.cInfo] := by
    rw [Catalog.candidates_eq_ok_iff (by simp), Catalog.Resolves]
    simp [Catalog.wellFormed_builtin.find?_eq_some_iff, hall, Catalog.cInfo, Catalog.iniInfo]
  obtain ⟨hc, hini⟩ := Detection.scoreText_lineBreak
  have hscored : Detection.scores ['\n'] [] 2
      [(Catalog.iniInfo : GrammarInfo Unit), Catalog.cInfo]
        = .ok [⟨Catalog.iniInfo, 0⟩, ⟨Catalog.cInfo, 0⟩] :=
    Detection.scores_cons_of_ok hini (Detection.scores_cons_of_ok hc rfl)
  have hnodup : [(Catalog.cInfo : GrammarInfo Unit), Catalog.iniInfo].Nodup :=
    hall ▸ Catalog.wellFormed_builtin.nodup_all
  obtain ⟨before, best, after, -, hbest, -, -, -, -, ⟨line, hline, -, rfl⟩, -, honly⟩ :=
    chosen_line_is_marked (.inr rfl) (by rfl : Catalog.builtin.registerAll [] = _) hinfos hscored
      (by simp) rfl
  cases hbest
  exact ⟨_, _, before.length, hinfos, hscored, honly (hnodup.perm (.swap _ _ _)), hline⟩

/-- Two names of one grammar are two candidates. The first is chosen, and both are marked. -/
theorem repeated_grammar_is_marked_twice :
    ∃ (infos : List (GrammarInfo Unit)) (scored : List (Scored Unit)),
      Catalog.builtin.candidates ["c", "cpp"] = .ok infos ∧
      Detection.scores ['\n'] [] 2 infos = .ok scored ∧
      (ofScores scored (Detection.best? scored)).lines.countP marked = 2 ∧
      (ofScores scored (Detection.best? scored)).human
        = "* c                 0\n* c                 0\n\nSelected: c\n" := by
  have hall : (Catalog.builtin : Catalog Unit).all = [Catalog.cInfo, Catalog.iniInfo] :=
    Catalog.all_builtin
  have hinfos : (Catalog.builtin : Catalog Unit).candidates ["c", "cpp"]
      = .ok [Catalog.cInfo, Catalog.cInfo] := by
    rw [Catalog.candidates_eq_ok_iff (by simp), Catalog.Resolves]
    simp [Catalog.wellFormed_builtin.find?_eq_some_iff, hall, Catalog.cInfo]
  have hc := Detection.scoreText_lineBreak.1
  have hscored : Detection.scores ['\n'] [] 2 [(Catalog.cInfo : GrammarInfo Unit), Catalog.cInfo]
      = .ok [⟨Catalog.cInfo, 0⟩, ⟨Catalog.cInfo, 0⟩] :=
    Detection.scores_cons_of_ok hc (Detection.scores_cons_of_ok hc rfl)
  have hreport : ∀ scored : List (Scored Unit), scored = [⟨Catalog.cInfo, 0⟩, ⟨Catalog.cInfo, 0⟩] →
      ofScores scored (Detection.best? scored) = ⟨[⟨"c", 0⟩, ⟨"c", 0⟩], some "c"⟩ := by
    rintro scored rfl
    rfl
  refine ⟨_, _, hinfos, hscored, ?_⟩
  rw [hreport _ rfl]
  decide +kernel

end DetectionReport

end ModalLexer
