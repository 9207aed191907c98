import ModalLexer.CommandLine.Basic
import ModalLexer.Proofs.Catalog.Candidates
import ModalLexer.Proofs.Detection.Selection
import ModalLexer.Proofs.Engine.Stopping
import ModalLexer.Proofs.Language.C.Nesting
import ModalLexer.Proofs.Language.Ini.Lines

/-! # Scans and detections agree

Scans with the grammars of the program come to a stop, so candidates always have scores, and one of
them is the best. A detection selects it, and a scan goes on with it if neither a switch nor the
name of the file gives the grammar.
-/

namespace ModalLexer.CommandLine

variable {config : Config} {options : ScanOptions} {text : Text} {names : List String}
  {markers : List Text} {path : String} {info : GrammarInfo Unit} {scored : List (Scored Unit)}
  {best : Scored Unit} {e : Failure}

theorem catalog_wellFormed : catalog.WellFormed := Catalog.wellFormed_builtin

theorem catalog_all : catalog.all = [Catalog.cInfo, Catalog.iniInfo] := Catalog.all_builtin

theorem mem_catalog_iff : info ∈ catalog.all ↔ info = Catalog.cInfo ∨ info = Catalog.iniInfo := by
  rw [catalog_all, List.mem_cons, List.mem_singleton]

theorem name_grammar (hinfo : info ∈ catalog.all) : info.grammar.name = info.name := by
  rcases mem_catalog_iff.1 hinfo with rfl | rfl <;> rfl

/-- A scan with a grammar of the program comes to a stop within the limit. -/
theorem exists_scan (hinfo : info ∈ catalog.all) (text : Text) (markers : List Text) :
    ∃ run, info.grammar.scan text markers (requestLimit text) = .ok run := by
  rcases mem_catalog_iff.1 hinfo with rfl | rfl
  · obtain ⟨compiled, hcompiled⟩ := Language.C.exists_compile (ε := Unit)
    exact Language.C.keeps_nested.exists_scan Language.C.plain_grammar hcompiled
      (Language.C.nested_nil text) markers
  · obtain ⟨compiled, hcompiled⟩ := Language.Ini.exists_compile (ε := Unit)
    exact Language.Ini.keeps_inMode.exists_scan Language.Ini.plain_grammar hcompiled
      (.inl ⟨rfl, rfl⟩) markers

/-- No file name pattern of the program matches the last component of the path. -/
def Unmatched (path : String) : Prop :=
  ∀ name, Path.baseName? path.toList = some name → ∀ info ∈ catalog.all, ¬ info.MatchesName name

theorem unmatched_of_baseName {name : Text} (hpath : Path.baseName? path.toList = some name)
    (hc : ¬ (Catalog.cInfo : GrammarInfo Unit).MatchesName name)
    (hini : ¬ (Catalog.iniInfo : GrammarInfo Unit).MatchesName name) : Unmatched path := by
  intro name' hname' info hinfo
  rw [hpath] at hname'
  cases hname'
  rcases mem_catalog_iff.1 hinfo with rfl | rfl
  · exact hc
  · exact hini

/-- No pattern matches the path that stands for the standard input. -/
theorem unmatched_of_isInput (h : Environment.isInput path) : Unmatched path := by
  have hcomponents : Path.components path.toList = [['-']] := by
    simpa [Environment.isInput] using h
  have hname : Path.baseName? path.toList = some ['-'] := by
    rw [Path.baseName?, hcomponents]
    rfl
  exact unmatched_of_baseName hname (by decide +kernel) (by decide +kernel)

theorem forPath_of_unmatched (h : Unmatched path) : catalog.forPath path.toList = [] := by
  rw [List.eq_nil_iff_forall_not_mem]
  intro info hinfo
  obtain ⟨hmem, -, name, hname, hmatches⟩ :=
    ((catalog_wellFormed.forPath_eq path.toList).2 info).1 hinfo
  exact h name hname info hmem hmatches

/-- All candidates that names stand for have scores. -/
theorem scores_of_candidates {infos : List (GrammarInfo Unit)}
    (h : catalog.candidates names = .ok infos) (markers : List Text) (text : Text) :
    ∃ scored, scores names markers text = .ok scored ∧
      Detection.scores text markers (requestLimit text) infos = .ok scored := by
  have hsettles : ∀ info ∈ infos, info.grammar.Settles text markers (requestLimit text) := by
    intro info hinfo e heq
    have hmem := catalog_wellFormed.mem_all_of_candidates h hinfo
    obtain ⟨run, hrun⟩ := exists_scan hmem text markers
    rw [hrun] at heq
    cases heq
  have hscored := Detection.scores_eq hsettles
  refine ⟨_, ?_, hscored⟩
  simp only [scores, h, hscored, Except.mapError, bind, Except.bind]

/-- Scores are missing only for a name that stands for no grammar. -/
theorem scores_eq_error_iff : scores names markers text = .error e ↔
    ∃ name, catalog.FirstUnknown names name ∧ e = .catalog (.unknownGrammar name) := by
  cases hcandidates : catalog.candidates names with
  | error cause =>
    obtain ⟨name, hname, rfl⟩ := Catalog.candidates_eq_error_iff.1 hcandidates
    have hscores : scores names markers text = .error (.catalog (.unknownGrammar name)) := by
      rw [scores, hcandidates]
      rfl
    rw [hscores]
    constructor
    · intro h
      cases h
      exact ⟨name, hname, rfl⟩
    · rintro ⟨name', hname', rfl⟩
      rw [Catalog.candidates_eq_error_iff.2 ⟨name', hname', rfl⟩] at hcandidates
      cases hcandidates
      rfl
  | ok infos =>
    obtain ⟨scored, hscores, -⟩ := scores_of_candidates hcandidates markers text
    rw [hscores]
    refine iff_of_false (by simp) ?_
    rintro ⟨name, hname, -⟩
    rw [Catalog.candidates_eq_error_iff.2 ⟨name, hname, rfl⟩] at hcandidates
    cases hcandidates

theorem candidates_of_scores (h : scores names markers text = .ok scored) :
    ∃ infos, catalog.candidates names = .ok infos ∧ (∀ info ∈ infos, info ∈ catalog.all) ∧
      Detection.scores text markers (requestLimit text) infos = .ok scored := by
  cases hcandidates : catalog.candidates names with
  | error cause =>
    rw [scores, hcandidates] at h
    cases h
  | ok infos =>
    obtain ⟨scored', hscores, hdetection⟩ := scores_of_candidates hcandidates markers text
    rw [h] at hscores
    cases hscores
    exact ⟨infos, rfl, fun info => catalog_wellFormed.mem_all_of_candidates hcandidates, hdetection⟩

/-- The scores are those of scans with grammars of the program. -/
theorem scoreText_of_mem_scores (h : scores names markers text = .ok scored) {s : Scored Unit}
    (hs : s ∈ scored) : s.info ∈ catalog.all ∧
      Detection.scoreText s.info.grammar text markers (requestLimit text) = .ok s.score := by
  obtain ⟨infos, -, hinfos, hdetection⟩ := candidates_of_scores h
  obtain ⟨hinfo, hscore⟩ := (Detection.mem_scores_iff hdetection).1 hs
  exact ⟨hinfos _ hinfo, hscore⟩

/-- There are candidates, and each has a score, so one of them is the best. -/
theorem exists_best (h : scores names markers text = .ok scored) :
    ∃ best ∈ scored, Detection.best? scored = some best := by
  obtain ⟨infos, hcandidates, hinfos, hdetection⟩ := candidates_of_scores h
  have hcatalog : catalog.all ≠ [] := by simp [catalog_all]
  obtain ⟨info, hinfo⟩ :=
    List.exists_mem_of_ne_nil _ (Catalog.candidates_ne_nil hcatalog hcandidates)
  obtain ⟨run, hrun⟩ := exists_scan (hinfos info hinfo) text markers
  have hscored : ⟨info, run.last.state.score.toInt⟩ ∈ scored := by
    refine (Detection.mem_scores_iff hdetection).2 ⟨hinfo, ?_⟩
    rw [Detection.scoreText, hrun]
    rfl
  cases hbest : Detection.best? scored with
  | none => exact absurd (Detection.best?_eq_none_iff.1 hbest) (List.ne_nil_of_mem hscored)
  | some best => exact ⟨best, (Detection.best?_eq_some_iff.1 hbest).mem, rfl⟩

theorem detectionReport_eq : detectionReport config [] text =
    (scores config.candidates config.stopMarkers text).map fun scored =>
      .ofScores scored (Detection.best? scored) := by
  rw [detectionReport, List.isEmpty_nil, if_pos rfl]
  cases scores config.candidates config.stopMarkers text <;> rfl

theorem detectionReport_eq_error_iff : detectionReport config [] text = .error e ↔
    ∃ name, catalog.FirstUnknown config.candidates name ∧
      e = .catalog (.unknownGrammar name) := by
  rw [← @scores_eq_error_iff text config.candidates config.stopMarkers, detectionReport_eq]
  cases scores config.candidates config.stopMarkers text <;> simp [Except.map]

section Scan

variable (hgrammar : options.grammar? = none) (hfile : ∀ path ∈ options.file?, Unmatched path)

include hfile in
theorem forPath_of_options :
    (options.file?.map fun path => catalog.forPath path.toList).getD [] = [] := by
  cases hfile? : options.file? with
  | none => rfl
  | some path => exact forPath_of_unmatched (hfile path hfile?)

include hgrammar hfile

theorem chooseGrammar_of_error (h : scores config.candidates markers text = .error e) :
    chooseGrammar config options markers text = .error e := by
  simp only [chooseGrammar, hgrammar, forPath_of_options hfile, h, bind, Except.bind]

/-- If neither a switch nor the name of the file gives the grammar, it is the best candidate. -/
theorem chooseGrammar_of_best (h : scores config.candidates markers text = .ok scored)
    (hbest : Detection.best? scored = some best) :
    chooseGrammar config options markers text = .ok best.info := by
  simp only [chooseGrammar, hgrammar, forPath_of_options hfile, h, hbest, bind, Except.bind, pure,
    Except.pure]

end Scan

/-- A scan whose grammar is not given fails like a detection among the candidates of the
configuration, which fails for the first of their names that is unknown. Otherwise the scan takes
the grammar that the detection selects, and reports the score that the detection has for it. -/
theorem scan_agrees_with_detection (hgrammar : options.grammar? = none)
    (hmarkers : options.stopMarkers = [])
    (hfile : ∀ path ∈ options.file?, Environment.isInput path ∨ Unmatched path) :
    (∀ e, chooseGrammar config options config.stopMarkers text = .error e ↔
      detectionReport config [] text = .error e) ∧
    (∀ e, scanReport config options text = .error e ↔
      detectionReport config [] text = .error e) ∧
    (∀ e, detectionReport config [] text = .error e ↔
      ∃ name, catalog.FirstUnknown config.candidates name ∧
        e = .catalog (.unknownGrammar name)) ∧
    ∀ detected, detectionReport config [] text = .ok detected →
      ∃ info run, chooseGrammar config options config.stopMarkers text = .ok info ∧
        info ∈ catalog.all ∧
        info.grammar.scan text config.stopMarkers (requestLimit text) = .ok run ∧
        scanReport config options text = .ok run.report ∧
        run.report.grammar = info.name ∧ detected.selected = some info.name ∧
        ⟨info.name, run.report.score⟩ ∈ detected.candidates ∧
        ∀ c ∈ detected.candidates, c.grammar = info.name → c.score = run.report.score := by
  have hunmatched : ∀ path ∈ options.file?, Unmatched path := fun path hpath =>
    (hfile path hpath).elim unmatched_of_isInput id
  have hscan : scanReport config options text = (do
      let info ← chooseGrammar config options config.stopMarkers text
      let run ← (info.grammar.scan text config.stopMarkers (requestLimit text)).mapError .scan
      return run.report) := by
    rw [scanReport, hmarkers, List.append_nil]
  cases hscores : scores config.candidates config.stopMarkers text with
  | error failure =>
    have hdetect : detectionReport config [] text = .error failure := by
      rw [detectionReport_eq, hscores]
      rfl
    have hchoose := chooseGrammar_of_error hgrammar hunmatched hscores
    have hreport : scanReport config options text = .error failure := by
      rw [hscan, hchoose]
      rfl
    refine ⟨fun e => ?_, fun e => ?_, fun e => detectionReport_eq_error_iff, fun detected h => ?_⟩
    · simp [hchoose, hdetect]
    · simp [hreport, hdetect]
    · rw [hdetect] at h
      cases h
  | ok scored =>
    obtain ⟨best, hmem, hbest⟩ := exists_best hscores
    have hinfo := (scoreText_of_mem_scores hscores hmem).1
    obtain ⟨run, hrun⟩ := exists_scan hinfo text config.stopMarkers
    have hdetect : detectionReport config [] text = .ok (.ofScores scored (some best)) := by
      rw [detectionReport_eq, hscores, ← hbest]
      rfl
    have hchoose := chooseGrammar_of_best hgrammar hunmatched hscores hbest
    have hreport : scanReport config options text = .ok run.report := by
      rw [hscan, hchoose]
      simp only [bind, Except.bind, hrun, Except.mapError, pure, Except.pure]
    -- All candidates of the grammar have the score of this scan.
    have hsame : ∀ s ∈ scored, s.info = best.info → s.score = run.report.score := by
      intro s hs heq
      have hscore := (scoreText_of_mem_scores hscores hs).2
      rw [heq, Detection.scoreText, hrun] at hscore
      exact (Except.ok.inj hscore).symm
    refine ⟨fun e => ?_, fun e => ?_, fun e => detectionReport_eq_error_iff, fun detected h => ?_⟩
    · simp [hchoose, hdetect]
    · simp [hreport, hdetect]
    · rw [hdetect] at h
      cases h
      refine ⟨best.info, run, hchoose, hinfo, hrun, hreport, ?_, rfl, ?_, ?_⟩
      · exact (Grammar.grammar_of_scan hrun).trans (name_grammar hinfo)
      · exact List.mem_map.2 ⟨best, hmem, by rw [← hsame best hmem rfl]; rfl⟩
      · intro c hc hname
        obtain ⟨s, hs, rfl⟩ := List.mem_map.1 hc
        have hs' := (scoreText_of_mem_scores hscores hs).1
        exact hsame s hs (catalog_wellFormed.name_inj hs' hinfo hname)

/-- The notes in front of the marker are settings, so the candidate in the middle is selected. -/
theorem scan_agrees_with_detection_on_notes : ∃ report,
    scanReport { stopMarkers := [[';']], candidates := ["cpp", "ini", "c"] }
      { file? := some "a/notes.txt" } "[x]\n;".toList = .ok report ∧
    report.grammar = "ini" ∧ report.score = 2 := by
  have hname : Path.baseName? "a/notes.txt".toList = some "notes.txt".toList := by decide +kernel
  have hfile : Unmatched "a/notes.txt" :=
    unmatched_of_baseName hname (by decide +kernel) (by decide +kernel)
  have hdetect : detectionReport { stopMarkers := [[';']], candidates := ["cpp", "ini", "c"] } []
      "[x]\n;".toList = .ok ⟨[⟨"c", 0⟩, ⟨"ini", 2⟩, ⟨"c", 0⟩], some "ini"⟩ := by
    decide +kernel
  obtain ⟨-, -, -, hagree⟩ := @scan_agrees_with_detection
    { stopMarkers := [[';']], candidates := ["cpp", "ini", "c"] } { file? := some "a/notes.txt" }
    "[x]\n;".toList rfl rfl (by simp [hfile])
  obtain ⟨info, run, -, -, -, hscan, hgrammar, hselected, -, hscore⟩ := hagree _ hdetect
  have hinfo : info.name = "ini" := (Option.some.inj hselected).symm
  exact ⟨run.report, hscan, hgrammar.trans hinfo, (hscore ⟨"ini", 2⟩ (by simp) hinfo.symm).symm⟩

end ModalLexer.CommandLine
