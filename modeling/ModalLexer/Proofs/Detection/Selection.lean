import Mathlib.Data.List.Basic
import ModalLexer.Catalog.Builtin
import ModalLexer.Detection

/-! # The selected candidate

A limit on the requests does not matter once the scans come to a stop. Then the scores are those of
the candidates that are sound, and the selection, which goes through them once, ends with the first
one of the highest score.
-/

namespace ModalLexer

variable {ε : Type} {text : Text} {markers : List Text} {limit more : Nat}

theorem Engine.run_of_le {e : Engine ε} {r : Run ε} (h : e.run limit = .ok r)
    (hle : limit ≤ more) : e.run more = .ok r := by
  induction hle with
  | refl => exact h
  | step _ ih => exact run_mono ih

namespace Grammar

variable {g : Grammar ε}

/-- The limit lets the scan come to a stop, if the grammar is sound. -/
def Settles (g : Grammar ε) (text : Text) (markers : List Text) (limit : Nat) : Prop :=
  ∀ e, g.scan text markers limit ≠ .error (.aborted e)

/-- The scan of the text comes to a stop, if the grammar is sound. -/
def Halts (g : Grammar ε) (text : Text) (markers : List Text) : Prop :=
  ∃ limit, g.Settles text markers limit

theorem Settles.scan_eq (h : g.Settles text markers limit) (hle : limit ≤ more) :
    g.scan text markers more = g.scan text markers limit := by
  simp only [Settles, scan] at h ⊢
  cases hstart : Engine.start g text with
  | error e => rfl
  | ok e =>
    simp only [hstart] at h ⊢
    cases hrun : (e.addMarkers markers).run limit with
    | error e' => exact absurd (by rw [hrun]; rfl) (h e')
    | ok r => rw [Engine.run_of_le hrun hle]

theorem Settles.mono (h : g.Settles text markers limit) (hle : limit ≤ more) :
    g.Settles text markers more := by
  intro e
  rw [h.scan_eq hle]
  exact h e

theorem scan_of_compile_error {e : GrammarError} (h : g.compile = .error e) :
    g.scan text markers limit = .error (.unsound e) := by
  have hstart : Engine.start g text = .error e := by rw [Engine.start, h]; rfl
  rw [scan, hstart]

theorem Settles.exists_scan (h : g.Settles text markers limit) (hg : g.compile.isOk) :
    ∃ r, g.scan text markers limit = .ok r := by
  cases hcompile : g.compile with
  | error e => simp [hcompile, Except.isOk, Except.toBool] at hg
  | ok modes =>
    obtain ⟨e, hstart⟩ : ∃ e, Engine.start g text = .ok e :=
      ⟨_, by rw [Engine.start, hcompile]; rfl⟩
    simp only [Settles, scan, hstart] at h ⊢
    cases hrun : (e.addMarkers markers).run limit with
    | error e' => exact absurd (by rw [hrun]; rfl) (h e')
    | ok r => exact ⟨r, rfl⟩

end Grammar

namespace Detection

variable {info : GrammarInfo ε} {candidates infos : List (GrammarInfo ε)} {score : Int}
  {best : Scored ε} {l : List (Scored ε)}

/-- The score that the grammar reaches on the text when it is run alone. -/
def Reaches (text : Text) (markers : List Text) (info : GrammarInfo ε) (score : Int) : Prop :=
  ∃ limit, scoreText info.grammar text markers limit = .ok score

/-- What a candidate contributes to the scores. -/
def scored? (text : Text) (markers : List Text) (limit : Nat) (info : GrammarInfo ε) :
    Option (Scored ε) :=
  (scoreText info.grammar text markers limit).toOption.map (⟨info, ·⟩)

theorem settles_of_scoreText (h : scoreText info.grammar text markers limit = .ok score) :
    info.grammar.Settles text markers limit := by
  intro e heq
  rw [scoreText, heq] at h
  cases h

theorem reaches_iff (h : info.grammar.Settles text markers limit) :
    Reaches text markers info score ↔
      scoreText info.grammar text markers limit = .ok score := by
  constructor
  · rintro ⟨limit', hscore⟩
    have h' := settles_of_scoreText hscore
    rcases Nat.le_total limit limit' with hle | hle
    · rwa [scoreText, h.scan_eq hle] at hscore
    · rwa [scoreText, h'.scan_eq hle]
  · intro hscore
    exact ⟨limit, hscore⟩

theorem Reaches.unique {score' : Int} (h : Reaches text markers info score)
    (h' : Reaches text markers info score') : score = score' := by
  obtain ⟨limit, hscore⟩ := h
  rw [reaches_iff (settles_of_scoreText hscore), hscore] at h'
  exact Except.ok.inj h'

theorem scored?_eq_some : scored? text markers limit info = some best ↔
    best.info = info ∧ scoreText info.grammar text markers limit = .ok best.score := by
  rw [scored?]
  cases hscore : scoreText info.grammar text markers limit with
  | error e => simp [Except.toOption]
  | ok score =>
    simp only [Except.toOption, Option.map_some, Option.some_inj, Except.ok.injEq]
    constructor
    · rintro rfl
      exact ⟨rfl, rfl⟩
    · rintro ⟨rfl, rfl⟩
      rfl

theorem scored?_eq_some_iff (h : info.grammar.Settles text markers limit) :
    scored? text markers limit info = some best ↔
      best.info = info ∧ Reaches text markers info best.score := by
  rw [reaches_iff h, scored?_eq_some]

theorem scored?_eq_none_iff (h : info.grammar.Settles text markers limit) :
    scored? text markers limit info = none ↔ info.grammar.compile.isOk = false := by
  constructor
  · intro hnone
    rw [← Bool.not_eq_true]
    intro hsound
    obtain ⟨r, hr⟩ := h.exists_scan hsound
    simp [scored?, scoreText, hr, Except.map, Except.toOption] at hnone
  · intro hunsound
    cases hcompile : info.grammar.compile with
    | ok modes => simp [hcompile, Except.isOk, Except.toBool] at hunsound
    | error e =>
      simp [scored?, scoreText, Grammar.scan_of_compile_error hcompile, Except.map,
        Except.toOption]

/-- The scores of the candidates that are sound, in order. -/
theorem scores_eq (h : ∀ info ∈ infos, info.grammar.Settles text markers limit) :
    scores text markers limit infos = .ok (infos.filterMap (scored? text markers limit)) := by
  induction infos with
  | nil => rfl
  | cons info infos ih =>
    have hmore := ih fun i hi => h i (List.mem_cons_of_mem _ hi)
    rw [scores, List.filterMap_cons, scored?]
    cases hscore : scoreText info.grammar text markers limit with
    | ok score => simp [hmore, Except.map, Except.toOption]
    | error e =>
      cases e with
      | unsound e => simp [hmore, Except.toOption]
      | aborted e =>
        have hscan : info.grammar.scan text markers limit = .error (.aborted e) := by
          cases hscan : info.grammar.scan text markers limit with
          | ok r => simp [scoreText, hscan, Except.map] at hscore
          | error e' => simpa [scoreText, hscan, Except.map] using hscore
        exact absurd hscan (h info List.mem_cons_self e)

theorem scores_cons_of_ok (hscore : scoreText info.grammar text markers limit = .ok score)
    (hmore : scores text markers limit infos = .ok l) :
    scores text markers limit (info :: infos) = .ok (⟨info, score⟩ :: l) := by
  simp only [scores, hscore, hmore, Except.map]

theorem eq_filterMap_of_scores (h : scores text markers limit infos = .ok l) :
    l = infos.filterMap (scored? text markers limit) := by
  induction infos generalizing l with
  | nil =>
    cases h
    rfl
  | cons info infos ih =>
    rw [scores] at h
    split at h
    · next score hscore =>
      cases hmore : scores text markers limit infos with
      | error e => simp [hmore, Except.map] at h
      | ok more =>
        simp only [hmore, Except.map, Except.ok.injEq] at h
        rw [← h, ih hmore]
        simp [scored?, hscore, Except.toOption]
    · next e hscore =>
      rw [ih h]
      simp [scored?, hscore, Except.toOption]
    · cases h

theorem mem_scores_iff (h : scores text markers limit infos = .ok l) :
    best ∈ l ↔ best.info ∈ infos ∧
      scoreText best.info.grammar text markers limit = .ok best.score := by
  rw [eq_filterMap_of_scores h, List.mem_filterMap]
  simp only [scored?_eq_some]
  constructor
  · rintro ⟨info, hinfo, rfl, hscore⟩
    exact ⟨hinfo, hscore⟩
  · rintro ⟨hinfo, hscore⟩
    exact ⟨best.info, hinfo, rfl, hscore⟩

theorem scores_sublist (h : scores text markers limit infos = .ok l) :
    (l.map (·.info)).Sublist infos := by
  rw [eq_filterMap_of_scores h, List.map_filterMap]
  have hguard : ∀ info : GrammarInfo ε, (scored? text markers limit info).map (·.info)
      = Option.guard (fun i => (scored? text markers limit i).isSome) info := by
    intro info
    cases hscored : scored? text markers limit info with
    | none => simp [Option.guard, hscored]
    | some s => simp [Option.guard, hscored, (scored?_eq_some.1 hscored).1]
  rw [funext hguard, List.filterMap_eq_filter]
  exact List.filter_sublist

/-- Candidates that are not sound make no difference, wherever they stand. -/
theorem scores_filter (infos : List (GrammarInfo ε)) :
    scores text markers limit (infos.filter (·.grammar.compile.isOk))
      = scores text markers limit infos := by
  induction infos with
  | nil => rfl
  | cons info infos ih =>
    rw [List.filter_cons]
    split
    · rw [scores, scores, ih]
    · next hunsound =>
      cases hcompile : info.grammar.compile with
      | ok modes => simp [hcompile, Except.isOk, Except.toBool] at hunsound
      | error e =>
        rw [ih, scores, scoreText, Grammar.scan_of_compile_error hcompile]
        rfl

/-- The first one of the highest score: it is better than those in front of it, and those behind it
are not better. -/
def IsBest (l : List (Scored ε)) (best : Scored ε) : Prop :=
  ∃ before after, l = before ++ best :: after ∧ (∀ s ∈ before, s.score < best.score) ∧
    ∀ s ∈ after, s.score ≤ best.score

theorem IsBest.mem (h : IsBest l best) : best ∈ l := by
  obtain ⟨before, after, rfl, -⟩ := h
  exact List.mem_append_right before List.mem_cons_self

theorem IsBest.better (h : IsBest l best) (later : Scored ε) :
    IsBest (l ++ [later]) (better best later) := by
  obtain ⟨before, after, rfl, hbefore, hafter⟩ := h
  rw [Detection.better]
  split
  · next hle =>
    refine ⟨before, after ++ [later], by simp, hbefore, ?_⟩
    intro s hs
    rcases List.mem_append.1 hs with hs | hs
    · exact hafter s hs
    · rwa [List.mem_singleton.1 hs]
  · next hlt =>
    refine ⟨before ++ best :: after, [], by simp, ?_, by simp⟩
    intro s hs
    rcases List.mem_append.1 hs with hs | hs
    · have := hbefore s hs
      omega
    · rcases List.mem_cons.1 hs with rfl | hs
      · omega
      · have := hafter s hs
        omega

theorem IsBest.foldl (h : IsBest l best) (others : List (Scored ε)) :
    IsBest (l ++ others) (others.foldl Detection.better best) := by
  induction others generalizing l best with
  | nil => simpa using h
  | cons other others ih =>
    have hnext := ih (h.better other)
    rwa [List.append_assoc, List.singleton_append] at hnext

/-- Two scores cannot both be the first of the highest: one would stand in front of the other. -/
theorem IsBest.unique {best' : Scored ε} (h : IsBest l best) (h' : IsBest l best') :
    best = best' := by
  obtain ⟨before, after, rfl, hbefore, hafter⟩ := h
  obtain ⟨before', after', heq, hbefore', hafter'⟩ := h'
  rcases List.append_eq_append_iff.1 heq with ⟨between, rfl, hrest⟩ | ⟨between, rfl, hrest⟩
  · cases between with
    | nil => exact (List.cons.inj hrest).1
    | cons first between =>
      obtain ⟨rfl, rfl⟩ := List.cons.inj hrest
      have hlt := hbefore' best (by simp)
      have hle := hafter best' (by simp)
      omega
  · cases between with
    | nil => exact (List.cons.inj hrest).1.symm
    | cons first between =>
      obtain ⟨rfl, rfl⟩ := List.cons.inj hrest
      have hlt := hbefore best' (by simp)
      have hle := hafter' best (by simp)
      omega

theorem best?_eq_none_iff : best? l = none ↔ l = [] := by
  cases l <;> simp [best?]

theorem best?_eq_some_iff : best? l = some best ↔ IsBest l best := by
  cases l with
  | nil => simp [best?, IsBest]
  | cons first others =>
    have hfirst : IsBest [first] first := ⟨[], [], rfl, by simp, by simp⟩
    have hbest := hfirst.foldl others
    rw [List.singleton_append] at hbest
    rw [best?, Option.some_inj]
    constructor
    · rintro rfl
      exact hbest
    · intro h
      exact hbest.unique h

/-- The candidate reaches its score, a higher one than all sound candidates before it, and no lower
one than those behind it. -/
def Wins (text : Text) (markers : List Text) (candidates : List (GrammarInfo ε))
    (best : Scored ε) : Prop :=
  ∃ before after, candidates = before ++ best.info :: after ∧
    Reaches text markers best.info best.score ∧
    (∀ info ∈ before, ∀ score, Reaches text markers info score → score < best.score) ∧
    ∀ info ∈ after, ∀ score, Reaches text markers info score → score ≤ best.score

theorem forall_scored_iff (h : ∀ info ∈ infos, info.grammar.Settles text markers limit)
    (P : Int → Prop) :
    (∀ s ∈ infos.filterMap (scored? text markers limit), P s.score) ↔
      ∀ info ∈ infos, ∀ score, Reaches text markers info score → P score := by
  simp only [List.mem_filterMap]
  constructor
  · intro hall info hinfo score hscore
    have hsome : scored? text markers limit info = some ⟨info, score⟩ :=
      (scored?_eq_some_iff (h info hinfo)).2 ⟨rfl, hscore⟩
    exact hall ⟨info, score⟩ ⟨info, hinfo, hsome⟩
  · rintro hall s ⟨info, hinfo, hsome⟩
    exact hall info hinfo s.score ((scored?_eq_some_iff (h info hinfo)).1 hsome).2

theorem isBest_scored_iff (h : ∀ info ∈ candidates, info.grammar.Settles text markers limit) :
    IsBest (candidates.filterMap (scored? text markers limit)) best ↔
      Wins text markers candidates best := by
  constructor
  · rintro ⟨scoresBefore, scoresAfter, heq, hbefore, hafter⟩
    obtain ⟨front, back, rfl, rfl, hback⟩ := List.filterMap_eq_append_iff.1 heq
    obtain ⟨skipped, info, after, rfl, hskipped, hinfo, rfl⟩ := List.filterMap_eq_cons_iff.1 hback
    have hsettles := h info (by simp)
    obtain ⟨rfl, hreaches⟩ := (scored?_eq_some_iff hsettles).1 hinfo
    have hnone : skipped.filterMap (scored? text markers limit) = [] :=
      List.filterMap_eq_nil_iff.2 hskipped
    refine ⟨front ++ skipped, after, by simp, hreaches, ?_, ?_⟩
    · refine (forall_scored_iff (fun i hi => h i ?_) (· < best.score)).1 ?_
      · rw [← List.append_assoc]
        exact List.mem_append_left _ hi
      · rwa [List.filterMap_append, hnone, List.append_nil]
    · exact (forall_scored_iff (fun i hi => h i (by simp [hi])) (· ≤ best.score)).1 hafter
  · rintro ⟨before, after, rfl, hreaches, hbefore, hafter⟩
    have hsome : scored? text markers limit best.info = some best :=
      (scored?_eq_some_iff (h best.info (by simp))).2 ⟨rfl, hreaches⟩
    refine ⟨before.filterMap (scored? text markers limit),
      after.filterMap (scored? text markers limit), ?_, ?_, ?_⟩
    · rw [List.filterMap_append, List.filterMap_cons, hsome]
    · exact (forall_scored_iff (fun i hi => h i (by simp [hi])) (· < best.score)).2 hbefore
    · exact (forall_scored_iff (fun i hi => h i (by simp [hi])) (· ≤ best.score)).2 hafter

/-- From some limit on the selection has the answer. -/
def Answers (text : Text) (markers : List Text) (candidates : List (GrammarInfo ε))
    (answer : Option (Scored ε)) : Prop :=
  ∃ n, ∀ limit ≥ n, select text markers limit candidates = .ok answer

theorem exists_limit (h : ∀ info ∈ candidates, info.grammar.Halts text markers) :
    ∃ n, ∀ info ∈ candidates, info.grammar.Settles text markers n := by
  induction candidates with
  | nil => exact ⟨0, by simp⟩
  | cons info infos ih =>
    obtain ⟨m, hm⟩ := h info List.mem_cons_self
    obtain ⟨n, hn⟩ := ih fun i hi => h i (List.mem_cons_of_mem _ hi)
    refine ⟨max m n, fun i hi => ?_⟩
    rcases List.mem_cons.1 hi with rfl | hi
    · exact hm.mono (Nat.le_max_left m n)
    · exact (hn i hi).mono (Nat.le_max_right m n)

/-- The selection, from the limit on that lets all scans come to a stop. -/
theorem exists_answers (h : ∀ info ∈ candidates, info.grammar.Halts text markers) :
    ∃ answer, Answers text markers candidates answer ∧
      (answer = none ↔ ∀ info ∈ candidates, info.grammar.compile.isOk = false) ∧
      ∀ best, answer = some best ↔ Wins text markers candidates best := by
  obtain ⟨n, hn⟩ := exists_limit h
  have hlimit : ∀ limit ≥ n, ∀ info ∈ candidates, info.grammar.Settles text markers limit :=
    fun limit hle info hinfo => (hn info hinfo).mono hle
  have hscored : ∀ limit ≥ n, ∀ info ∈ candidates,
      scored? text markers limit info = scored? text markers n info := by
    intro limit hle info hinfo
    rw [scored?, scored?, scoreText, scoreText, (hn info hinfo).scan_eq hle]
  refine ⟨best? (candidates.filterMap (scored? text markers n)), ⟨n, fun limit hle => ?_⟩, ?_, ?_⟩
  · rw [select, scores_eq (hlimit limit hle), List.filterMap_congr (hscored limit hle)]
    rfl
  · rw [best?_eq_none_iff, List.filterMap_eq_nil_iff]
    exact forall₂_congr fun info hinfo => scored?_eq_none_iff (hn info hinfo)
  · intro best
    rw [best?_eq_some_iff, isBest_scored_iff hn]

/-- A candidate that reaches a higher score than all others wins in any order. -/
theorem wins_of_highest (hmem : best.info ∈ candidates)
    (hreaches : Reaches text markers best.info best.score)
    (hhighest : ∀ info ∈ candidates, info ≠ best.info → ∀ score,
      Reaches text markers info score → score < best.score) :
    Wins text markers candidates best := by
  obtain ⟨before, after, rfl, hfirst⟩ := List.eq_append_cons_of_mem hmem
  refine ⟨before, after, rfl, hreaches, fun info hinfo => ?_, fun info hinfo score hscore => ?_⟩
  · exact hhighest info (by simp [hinfo]) fun heq => hfirst (heq ▸ hinfo)
  · by_cases heq : info = best.info
    · exact Int.le_of_eq (Reaches.unique (heq ▸ hscore) hreaches)
    · exact Int.le_of_lt (hhighest info (by simp [hinfo]) heq score hscore)

/-- If the scans of the candidates halt, a selection has an answer. There is no candidate only if
none of them is sound. Otherwise it is the one that reaches, run alone, a higher score than all
sound ones before it and no lower score than those behind it. Candidates that are not sound may be
put in or left out anywhere, and a candidate with the highest score of all is selected in any
order. -/
theorem select_earliest_best (h : ∀ info ∈ candidates, info.grammar.Halts text markers) :
    ∃ answer, Answers text markers candidates answer ∧
      (answer = none ↔ ∀ info ∈ candidates, info.grammar.compile.isOk = false) ∧
      (∀ best, answer = some best ↔ Wins text markers candidates best) ∧
      (∀ others : List (GrammarInfo ε),
        others.filter (·.grammar.compile.isOk) = candidates.filter (·.grammar.compile.isOk) →
        Answers text markers others answer) ∧
      ∀ best : Scored ε, best.info ∈ candidates → Reaches text markers best.info best.score →
        (∀ info ∈ candidates, info ≠ best.info → ∀ score,
          Reaches text markers info score → score < best.score) →
        ∀ others : List (GrammarInfo ε), others.Perm candidates →
          Answers text markers others (some best) := by
  obtain ⟨answer, ⟨n, hn⟩, hnone, hsome⟩ := exists_answers h
  refine ⟨answer, ⟨n, hn⟩, hnone, hsome, ?_, ?_⟩
  · intro others hfilter
    refine ⟨n, fun limit hle => ?_⟩
    rw [← hn limit hle, select, select, ← scores_filter others, hfilter, scores_filter]
  · intro best hmem hreaches hhighest others hperm
    obtain ⟨answer', hanswer', -, hsome'⟩ :=
      exists_answers fun info hinfo => h info (hperm.mem_iff.1 hinfo)
    have hwins : Wins text markers others best :=
      wins_of_highest (hperm.mem_iff.2 hmem) hreaches fun info hinfo =>
        hhighest info (hperm.mem_iff.1 hinfo)
    rwa [(hsome' best).2 hwins] at hanswer'

/-- The languages reach the same score on a line break. -/
theorem scoreText_lineBreak :
    scoreText (Catalog.cInfo : GrammarInfo Unit).grammar ['\n'] [] 2 = .ok 0 ∧
    scoreText (Catalog.iniInfo : GrammarInfo Unit).grammar ['\n'] [] 2 = .ok 0 := by
  constructor <;> decide +kernel

/-- The grammar in front is not sound, and of the two others, with the same score, the earlier one
is selected. -/
theorem select_earliest_best_of_tie : ∃ (broken : GrammarInfo Unit) (best : Scored Unit),
    broken.grammar.compile.isOk = false ∧ best.info.name = "ini" ∧
    (∀ info ∈ [broken, Catalog.iniInfo, Catalog.cInfo], info.grammar.Halts ['\n'] []) ∧
    Answers ['\n'] [] [broken, Catalog.iniInfo, Catalog.cInfo] (some best) := by
  obtain ⟨hc, hini⟩ := scoreText_lineBreak
  obtain ⟨broken, hbroken⟩ : ∃ broken : GrammarInfo Unit,
      broken.grammar.compile = .error (.noModes "broken") :=
    ⟨⟨⟨"broken", some []⟩, ["broken"], [], []⟩, rfl⟩
  have hunsound : ∀ limit, scoreText broken.grammar ['\n'] [] limit
      = .error (.unsound (.noModes "broken")) := by
    intro limit
    rw [scoreText, Grammar.scan_of_compile_error hbroken]
    rfl
  have hhalts : ∀ info ∈ [broken, Catalog.iniInfo, Catalog.cInfo],
      info.grammar.Halts ['\n'] [] := by
    simp only [List.forall_mem_cons, List.not_mem_nil, false_imp_iff, implies_true, and_true]
    refine ⟨⟨0, fun e => ?_⟩, ⟨2, settles_of_scoreText hini⟩, 2, settles_of_scoreText hc⟩
    rw [Grammar.scan_of_compile_error hbroken]
    simp
  obtain ⟨answer, hanswer, -, hwins, -⟩ := select_earliest_best hhalts
  have hbest : answer = some ⟨Catalog.iniInfo, 0⟩ := by
    refine (hwins _).2 ⟨[broken], [Catalog.cInfo], rfl, ⟨2, hini⟩, ?_, ?_⟩
    · rintro info hinfo score ⟨limit, hscore⟩
      rw [List.mem_singleton.1 hinfo, hunsound] at hscore
      cases hscore
    · intro info hinfo score hscore
      rw [List.mem_singleton.1 hinfo] at hscore
      exact Int.le_of_eq (hscore.unique ⟨2, hc⟩)
  exact ⟨broken, ⟨Catalog.iniInfo, 0⟩, by rw [hbroken]; rfl, rfl, hhalts, hbest ▸ hanswer⟩

end Detection

end ModalLexer
