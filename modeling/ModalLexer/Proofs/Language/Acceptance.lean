import ModalLexer.Proofs.Language.C.Nesting
import ModalLexer.Proofs.Language.Ini.Lines
import ModalLexer.Report.Scan

/-! # Every text is accepted

The languages scan every text to its end. Each request takes at least one character, so there are no
more tokens than bytes, and the modes are always nested as the languages mean them to be.
-/

namespace ModalLexer

variable {ε : Type}

/-- Without stop markers the scan takes the whole text, in tokens that are not empty, and every
request is answered. After any number of requests the state satisfies `ok`. -/
structure Grammar.Accepts (g : Grammar ε) (ok : State ε → Prop) (text : Text) : Prop where
  scan : ∃ r, g.scan text [] (text.byteSize + 1) = .ok r ∧ r.answers.length ≤ text.byteSize ∧
    (∀ answer ∈ r.answers, answer.1.isStop = false ∧ answer.1.text ≠ []) ∧
    r.stop = ⟨some .stopEndOfString, []⟩ ∧ r.last.state.text = [] ∧ r.report.isError = false
  requests : ∃ e, Engine.start g text = .ok e ∧ ∀ n, ∃ r, e.pulls n = .ok r ∧ ok r.engine.state

/-- A grammar with plain rules accepts a text under an invariant that always admits a step. -/
theorem Grammar.Keeps.accepts {g : Grammar ε} {I : List Token → Situation → Prop}
    {ok : State ε → Prop} {modes : List (Mode ε)} {compiled : List (CompiledMode ε)} {text : Text}
    (hI : g.Keeps I) (hplain : g.Plain) (hcompiled : g.compile = .ok compiled)
    (hmodes : g.modes? = some modes) (hstart : I [] (.start text))
    (hok : ∀ ts s, I ts s.situation → s.modeNames = modes.map (·.name) → ok s) :
    g.Accepts ok text := by
  constructor
  · obtain ⟨ts, c, hlexes, hend, -⟩ := hI.exists_lexes [] hstart
    obtain ⟨r, hr, htokens, hstop, hsituation⟩ := Engine.scan_of_lexes hplain hcompiled hlexes hend
    refine ⟨r, hr, ?_, fun answer hanswer => ?_, hstop, ?_, ?_⟩
    · have hlen := congrArg List.length htokens
      rw [List.length_map] at hlen
      exact hlen ▸ hlexes.length_le
    · have hmem : answer.1 ∈ ts := htokens ▸ List.mem_map_of_mem hanswer
      exact (hlexes.sound.2 _ hmem).symm
    · rw [← hend, ← hsituation]
      rfl
    · have hkind : r.report.stop.kind = "Stop.EndOfString" := by rw [Run.report, hstop]; rfl
      rw [ScanReport.isError, hkind]
      decide
  · obtain ⟨e, he, hpulls⟩ := Engine.exists_start_tracks hI hplain hcompiled hmodes hstart
    refine ⟨e, he, ?_⟩
    intro n
    obtain ⟨r, hr, htracks, hnames⟩ := hpulls n
    obtain ⟨us, hus⟩ := htracks.exists_invariant
    exact ⟨r, hr, hok us _ hus hnames⟩

namespace Language

theorem C.Nested.root_iff {ts : List Token} {s : State ε} (h : Nested ts s.situation)
    (hnames : s.modeNames = modeNames) :
    (s.modeName = "root" ↔ s.stack = []) ∧
      ∀ mode, s.stack.getLast? = some mode → s.modeNames.getD mode "" = "root" := by
  have hmodes : s.mode :: s.stack = (balance ts).opened.map Bracket.mode ++ [0] := h.modes
  rw [State.modeName, hnames]
  cases hopened : (balance ts).opened with
  | nil =>
    rw [hopened] at hmodes
    obtain ⟨hmode, hstack⟩ := List.cons.inj hmodes
    rw [hmode, hstack]
    exact ⟨by decide, by simp⟩
  | cons b opened =>
    rw [hopened] at hmodes
    obtain ⟨hmode, hstack⟩ := List.cons.inj hmodes
    have hroot : modeNames.getD b.mode "" ≠ "root" := by cases b <;> decide
    have hstack : s.stack = opened.map Bracket.mode ++ [0] := hstack
    rw [hmode, hstack]
    refine ⟨⟨fun hname => absurd hname hroot, by simp⟩, ?_⟩
    intro mode hmode
    rw [List.getLast?_concat] at hmode
    cases hmode
    rfl

theorem Ini.InMode.value_iff {s : State ε} (h : InMode s.situation)
    (hnames : s.modeNames = modeNames) :
    s.depth ≤ 1 ∧ (s.modeName = "value" ↔ s.depth = 1) := by
  rw [State.modeName, State.depth, hnames]
  rcases h with ⟨hmode, hstack⟩ | ⟨hmode, hstack⟩
  · rw [show s.mode = 0 from hmode, show s.stack = [] from hstack]
    decide
  · rw [show s.mode = 1 from hmode, show s.stack = [0] from hstack]
    decide

/-- The languages accept every text. In the C family the scan is in the mode `root` exactly if it
has no mode to return to, and otherwise returns to `root` in the end. On settings files it is at
most one mode deep, and then in the mode `value`. -/
theorem accept_every_text (text : Text) :
    (C.grammar : Grammar ε).Accepts
      (fun s => (s.modeName = "root" ↔ s.stack = []) ∧
        ∀ mode, s.stack.getLast? = some mode → s.modeNames.getD mode "" = "root") text ∧
    (Ini.grammar : Grammar ε).Accepts
      (fun s => s.depth ≤ 1 ∧ (s.modeName = "value" ↔ s.depth = 1)) text := by
  obtain ⟨c, hc⟩ := C.exists_compile (ε := ε)
  obtain ⟨ini, hini⟩ := Ini.exists_compile (ε := ε)
  refine ⟨?_, ?_⟩
  · exact C.keeps_nested.accepts C.plain_grammar hc C.grammar_modes (C.nested_nil text)
      fun ts s h hnames => h.root_iff (hnames.trans C.allModes_names)
  · exact Ini.keeps_inMode.accepts Ini.plain_grammar hini Ini.grammar_modes (.inl ⟨rfl, rfl⟩)
      fun ts s h hnames => Ini.InMode.value_iff h hnames

end Language

end ModalLexer
