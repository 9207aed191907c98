import ModalLexer.Proofs.Engine.Diagnostics
import ModalLexer.Proofs.Grammar.Soundness
import ModalLexer.Proofs.Rule.Passage

/-! # Engines run sound grammars only

An engine exists for a sound grammar only. In all states that it goes through, between the calls of
its owner and inside of its requests, the current mode and the modes to return to are modes of the
definition. A mode is entered if the definition has one of that name, and the rules that are tried
are those of the definition, whose patterns are valid.
-/

namespace ModalLexer

variable {ε : Type}

/-- Tries a rule of a definition. Its pattern is compiled for that, which fails if it is not
valid. -/
def Rule.exec (r : Rule ε) (s : State ε) : Except Pattern.PatternError (Outcome ε) :=
  r.compile.map (·.exec s)

namespace State

/-- The state is at home in the modes of a definition: its own mode and those to return to exist,
and modes are entered by their names and left as the definition has them. -/
structure AtHome (grammar : String) (modes : List (Mode ε)) (s : State ε) : Prop where
  mode : ∃ m, modes[s.mode]? = some m ∧ s.modeName = m.name
  stack : ∀ i ∈ s.stack, i < modes.length
  enter : ∀ name,
    (∃ i, (∃ m, modes[i]? = some m ∧ m.name = name) ∧
      (∀ j m, modes[j]? = some m → m.name = name → j = i) ∧
      s.enter name = .ok { s with mode := i, stack := s.mode :: s.stack }) ∨
    (∀ m ∈ modes, m.name ≠ name) ∧ s.enter name = .error (.unknownMode grammar name)
  exit : (∃ i stack, s.stack = i :: stack ∧ i < modes.length ∧
      s.exit = .ok { s with mode := i, stack }) ∨
    s.stack = [] ∧ s.exit = .error .emptyModeStack

variable {grammar : String} {modes : List (Mode ε)} {s : State ε}

theorem Scans.atHome (h : s.Scans grammar (modes.map (·.name)))
    (hnodup : (modes.map (·.name)).Nodup) : s.AtHome grammar modes where
  mode := by
    obtain ⟨hlt, hname⟩ := h.modeName_eq
    rw [List.length_map] at hlt
    exact ⟨modes[s.mode], List.getElem?_eq_getElem hlt, by simpa using hname⟩
  stack := by
    intro i hi
    have hlt := h.inModes.stack i hi
    rwa [h.names, List.length_map] at hlt
  enter := by
    intro name
    cases hmode : s.modeNames.idxOf? name with
    | some i =>
      have hfirst := hmode
      rw [h.names, List.idxOf?_eq_some_iff] at hfirst
      obtain ⟨hlt, hname, -⟩ := hfirst
      have hi : (modes.map (·.name))[i]? = some name := by
        rw [List.getElem?_eq_getElem hlt, hname]
      obtain ⟨m, hm, hmname⟩ : ∃ m, modes[i]? = some m ∧ m.name = name := by simpa using hi
      refine .inl ⟨i, ⟨m, hm, hmname⟩, fun j m' hm' hname' => ?_, by simp [State.enter, hmode]⟩
      have hj : (modes.map (·.name))[j]? = some name := by simp [hm', hname']
      exact ((List.getElem?_inj hlt hnodup).1 (hi.trans hj.symm)).symm
    | none =>
      refine .inr ⟨?_, by simp [State.enter, hmode, h.grammar]⟩
      rw [h.names, List.idxOf?_eq_none_iff] at hmode
      intro m hm hname
      exact hmode (hname ▸ List.mem_map_of_mem hm)
  exit := by
    cases hstack : s.stack with
    | nil => exact .inr ⟨rfl, by simp [State.exit, hstack]⟩
    | cons i stack =>
      have hlt := h.inModes.stack i (by simp [hstack])
      rw [h.names, List.length_map] at hlt
      exact .inl ⟨i, stack, rfl, hlt, by simp [State.exit, hstack]⟩

end State

namespace Engine

/-- Nothing in the definition stops the engine: its state and those inside of its next request are
at home in the modes, its owner cannot enter an unknown mode or leave the outermost one, and each
rule that has its turn in a pass is the one of the definition, with a pattern that is valid. -/
structure Secure (g : Grammar ε) (modes : List (Mode ε)) (e : Engine ε) : Prop where
  state : e.state.AtHome g.name modes
  enter : ∀ name, (∀ m ∈ modes, m.name ≠ name) → e.call (.operate (.enter name)) = (none, e)
  exit : e.state.stack = [] → e.call (.operate .exit) = (none, e)
  passes : ∀ idle u, Passes e.modes 0 e.state idle u →
    u.AtHome g.name modes ∧ (pass e.modes u).2.AtHome g.name modes ∧
    ∃ m c, modes[u.mode]? = some m ∧ e.modes[u.mode]? = some c ∧ c.name = m.name ∧
      ∀ rule number t, Turn 0 c.rules u rule number t →
        (∃ source, m.rules[number]? = some source ∧ ∀ s, source.exec s = .ok (rule.exec s)) ∧
        ∀ s ∈ rule.trace { t with rule := number }, s.AtHome g.name modes

variable {g : Grammar ε} {modes : List (Mode ε)} {e : Engine ε}

theorem Runs.secure (h : Runs g e) (hmodes : g.modes? = some modes) : e.Secure g modes := by
  obtain ⟨hcompile, hstate⟩ := h
  obtain ⟨hnames, hcompiled⟩ := Grammar.getElem?_of_compile hcompile hmodes
  have hnodup : (modes.map (·.name)).Nodup := hnames ▸ Grammar.nodup_of_compile hcompile
  rw [hnames] at hstate
  -- Being at home follows from what every operation keeps, so it is not carried through itself.
  have hhome : ∀ {s : State ε}, s.Scans g.name (modes.map (·.name)) → s.AtHome g.name modes :=
    fun hs => hs.atHome hnodup
  have hrule : ∀ {s : State ε} (rule : Nat), s.Scans g.name (modes.map (·.name)) →
      ({ s with rule } : State ε).Scans g.name (modes.map (·.name)) :=
    fun _ hs => hs.of_same rfl rfl rfl rfl
  have hlaws : Allows (State.KeptBy (State.Scans g.name (modes.map (·.name)))) e.modes :=
    allows_of_forall State.scans_keptBy e.modes
  refine ⟨hhome hstate, ?_, ?_, ?_⟩
  · intro name hname
    rcases (hhome hstate).enter name with ⟨i, ⟨m, hm, hmname⟩, -⟩ | ⟨-, herror⟩
    · exact absurd hmname (hname m (List.mem_of_getElem? hm))
    · simp [Engine.call, Operation.perform, herror, Except.mapError]
  · intro hstack
    rcases (hhome hstate).exit with ⟨i, stack, hcons, -⟩ | ⟨-, herror⟩
    · rw [hstack] at hcons
      cases hcons
    · simp [Engine.call, Operation.perform, herror, Except.mapError]
  · intro idle u hpasses
    have hu := hpasses.kept State.kept_scans hrule hlaws hstate
    obtain ⟨m, hm, -⟩ := (hhome hu).mode
    obtain ⟨rules, hrules, hc⟩ := hcompiled u.mode m hm
    refine ⟨hhome hu, hhome (pass_kept State.kept_scans hrule hlaws hu), m, _, hm, hc, rfl, ?_⟩
    intro rule number t hturn
    have ht := hturn.kept State.kept_scans hrule
      (fun r _ => r.allows_of_forall State.scans_keptBy) hu
    obtain ⟨source, hsource, hcompiles⟩ :=
      Grammar.exists_of_getElem?_compileRules hrules hturn.getElem?
    refine ⟨⟨source, hsource, fun s => by rw [Rule.exec, hcompiles]; rfl⟩, fun s hs => ?_⟩
    exact hhome (CompiledRule.trace_kept State.kept_scans
      (rule.allows_of_forall State.scans_keptBy) (hrule number ht) s hs)

theorem start_eq (g : Grammar ε) (text : Text) : Engine.start g text = g.compile.map fun modes =>
    { modes, state := { grammar := g.name, modeNames := modes.map (·.name), text } } := by
  unfold Engine.start
  cases g.compile <;> rfl

theorem exists_start_iff {text : Text} :
    (∃ start, Engine.start g text = .ok start) ↔ ∃ compiled, g.compile = .ok compiled := by
  rw [start_eq]
  cases g.compile with
  | error err => simp [Except.map]
  | ok compiled => simp [Except.map]

theorem start_eq_error_iff {text : Text} {err : GrammarError} :
    Engine.start g text = .error err ↔ g.compile = .error err := by
  rw [start_eq]
  cases g.compile with
  | error err' => simp [Except.map]
  | ok compiled => simp [Except.map]

/-- A grammar compiles exactly if it is sound, and else it is refused for the first of its defects.
Exactly for a grammar that compiles there are engines. Whatever calls have been made on an engine,
its modes are those of the definition: the current mode and those to return to exist in all states
that the calls go through, a name leads to the one mode that bears it, and an unknown name and an
exit from the outermost mode fail and change nothing. No rule is tried with a pattern that is not
valid. -/
theorem only_sound_grammars_run (g : Grammar ε) :
    ((∃ compiled, g.compile = .ok compiled) ↔ g.Sound) ∧
    (∀ err, g.compile = .error err ↔ g.Fails err) ∧
    ∀ text : Text, ((∃ start, Engine.start g text = .ok start) ↔ g.Sound) ∧
      (∀ err, Engine.start g text = .error err ↔ g.Fails err) ∧
      ∀ start, Engine.start g text = .ok start → ∀ (markers : List Text) (cs : List (Call ε)),
        ∃ modes, g.modes? = some modes ∧
          (calls cs (start.addMarkers markers)).2.Secure g modes := by
  refine ⟨Grammar.exists_compile_iff, fun _ => Grammar.compile_eq_error_iff, fun text => ?_⟩
  refine ⟨exists_start_iff.trans Grammar.exists_compile_iff,
    fun _ => start_eq_error_iff.trans Grammar.compile_eq_error_iff, ?_⟩
  intro start hstart markers cs
  obtain ⟨hcompile, hstate⟩ := runs_start hstart
  have hmarked : Runs g (start.addMarkers markers) := ⟨hcompile, hstate.of_same rfl rfl rfl rfl⟩
  obtain ⟨modes, hmodes, -⟩ := Grammar.exists_compile_iff.1 ⟨_, hcompile⟩
  exact ⟨modes, hmodes, (hmarked.calls cs).secure hmodes⟩

/-- The owner enters a mode, fails to enter another one, and takes a token. The first exit leads
back, and the second one is from the outermost mode. -/
def callsAroundModes : List (Call Unit) :=
  [.operate (.enter "inner"), .operate (.enter "nowhere"), .operate .exit, .next, .operate .exit]

/-- The engine of a grammar whose rules enter a mode that does not exist is as secure as any. -/
theorem only_sound_grammars_run_entering : ∃ start modes,
    enteringGrammar.Sound ∧ Engine.start enteringGrammar "ba".toList = .ok start ∧
    enteringGrammar.modes? = some modes ∧
    (calls callsAroundModes (start.addMarkers [])).2.Secure enteringGrammar modes ∧
    (calls callsAroundModes (start.addMarkers [])).1 = [⟨some .code, ['b']⟩] ∧
    (calls callsAroundModes (start.addMarkers [])).2.state.stack = [] := by
  obtain ⟨hcompile, -, htext⟩ := only_sound_grammars_run enteringGrammar
  obtain ⟨hsound, -, hcalls⟩ := htext "ba".toList
  obtain ⟨start, hstart, hanswers, hstack⟩ : ∃ start,
      Engine.start enteringGrammar "ba".toList = .ok start ∧
      (calls callsAroundModes (start.addMarkers [])).1 = [⟨some .code, ['b']⟩] ∧
      (calls callsAroundModes (start.addMarkers [])).2.state.stack = [] := by
    decide +kernel
  obtain ⟨modes, hmodes, hsecure⟩ := hcalls start hstart [] callsAroundModes
  exact ⟨start, modes, hsound.1 ⟨start, hstart⟩, hstart, hmodes, hsecure, hanswers, hstack⟩

end Engine

end ModalLexer
