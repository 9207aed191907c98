import ModalLexer.Engine.Run
import ModalLexer.Proofs.Grammar.Compilation

/-! # What rules keep

Rules take text, queue tokens, change the score and the data, and enter and leave modes. A property
that each of these operations keeps is kept by every rule. Three such properties are used below: the
frame of a scan, which is the grammar with the names of its modes, the stop markers and the token
that ended it; the number of the rule that is being tried; and that the modes of a scan exist. Code
that intervenes in the scan keeps the last one and otherwise only what is asked of it.
-/

namespace ModalLexer

variable {ε : Type}

namespace State

/-- A property that every operation of a rule keeps. -/
structure Kept (P : State ε → Prop) : Prop where
  contents : ∀ {s : State ε} (text queue extension), P s → P { s with text, queue, extension }
  addScore : ∀ {s : State ε} (delta : Int64), P s → P (s.addScore delta)
  enter : ∀ {s : State ε} {name : String} {mode : Nat}, P s →
    s.modeNames.idxOf? name = some mode → P { s with mode, stack := s.mode :: s.stack }
  exit : ∀ {s : State ε} {mode : Nat} {stack : List Nat}, P s → s.stack = mode :: stack →
    P { s with mode, stack }

variable {P : State ε → Prop} {s s' : State ε} {n : Nat}

theorem enter_cases {name : String} (h : s.enter name = .ok s') :
    ∃ mode, s.modeNames.idxOf? name = some mode ∧
      s' = { s with mode, stack := s.mode :: s.stack } := by
  simp only [enter] at h
  split at h
  · next mode hmode => cases h; exact ⟨mode, hmode, rfl⟩
  · cases h

theorem exit_cases (h : s.exit = .ok s') :
    ∃ mode stack, s.stack = mode :: stack ∧ s' = { s with mode, stack } := by
  simp only [exit] at h
  split at h
  · next mode stack hstack => cases h; exact ⟨mode, stack, hstack, rfl⟩
  · cases h

namespace Kept

variable (hP : Kept P) (hs : P s)
include hP hs

theorem push (token : Token) : P (s.push token) :=
  hP.contents s.text (s.queue.push token) s.extension hs

theorem consume {head : Text} (h : s.consume n = .ok (head, s')) : P s' := by
  simp only [State.consume] at h
  split at h <;> cases h
  exact hP.contents _ s.queue s.extension hs

theorem emit {kind : TokenType} (h : s.emit kind n = .ok s') : P s' := by
  simp only [State.emit] at h
  cases hc : s.consume n with
  | error => rw [hc] at h; cases h
  | ok p =>
    rw [hc] at h
    have hs' : p.2.push ⟨some kind, p.1⟩ = s' := Except.ok.inj h
    rw [← hs']
    exact hP.push (hP.consume hs hc) _

theorem accept (found : Option (Token × Text)) : P (s.accept found).2 := by
  cases found with
  | none => exact hs
  | some p =>
    simp only [State.accept]
    split
    · exact hs
    · exact hP.contents (s := s) p.2 (s.queue.push p.1) s.extension hs

theorem scanBytes {kind : TokenType} {fired : Bool} (h : s.scanBytes kind n = .ok (fired, s')) :
    P s' := by
  simp only [State.scanBytes] at h
  split at h
  · have hs' : (s.accept _).2 = s' := congrArg Prod.snd (Except.ok.inj h)
    rw [← hs']
    exact hP.accept hs _
  · cases h

theorem of_enter {name : String} (h : s.enter name = .ok s') : P s' := by
  obtain ⟨mode, hmode, rfl⟩ := enter_cases h
  exact hP.enter hs hmode

theorem of_exit (h : s.exit = .ok s') : P s' := by
  obtain ⟨mode, stack, hstack, rfl⟩ := exit_cases h
  exact hP.exit hs hstack

end Kept

theorem Kept.emitAll (hP : Kept P) (pieces : List (TokenType × Nat)) (hs : P s) :
    P (s.emitAll pieces).2 := by
  induction pieces generalizing s with
  | nil => exact hs
  | cons piece pieces ih =>
    simp only [State.emitAll]
    split
    · next s' h => exact ih (hP.emit hs h)
    · exact hs

end State

open State

variable {P : State ε → Prop} {s : State ε}

/-- The intervention keeps the property. -/
def State.KeptBy (P : State ε → Prop) (i : Intervention ε) : Prop := ∀ s, P s → P (i.run s).2

theorem Procedure.run_kept (hP : Kept P) {p : Procedure ε} (hp : p.Allows (KeptBy P)) (hs : P s) :
    P (p.run s).2 := by
  induction p generalizing s with
  | done | fail => exact hs
  | inspect next ih => exact ih _ (hp _) hs
  | push token next ih => exact ih hp (hP.push hs token)
  | consume n next ih =>
    simp only [run]
    split
    · next text s' h => exact ih text (hp text) (hP.consume hs h)
    · exact hs
  | emit kind n next ih =>
    simp only [run]
    split
    · next s' h => exact ih hp (hP.emit hs h)
    · exact hs
  | scan scanner next ih => exact ih _ (hp _) (hP.accept hs _)
  | scanBytes kind n next ih =>
    simp only [run]
    split
    · next fired s' h => exact ih fired (hp fired) (hP.scanBytes hs h)
    · exact hs
  | addScore delta next ih => exact ih hp (hP.addScore delta hs)
  | enter mode next ih =>
    simp only [run]
    split
    · next s' h => exact ih none (hp none) (hP.of_enter hs h)
    · exact ih _ (hp _) hs
  | exit next ih =>
    simp only [run]
    split
    · next s' h => exact ih none (hp none) (hP.of_exit hs h)
    · exact ih _ (hp _) hs
  | modifyExtension f next ih =>
    exact ih hp (hP.contents s.text s.queue (s.extension.map f) hs)
  | intervene i next ih =>
    have hrun := hp.1 s hs
    simp only [run]
    split
    · next token? s' h =>
      rw [h] at hrun
      exact ih token? (hp.2 token?) hrun
    · next f s' h => rwa [h] at hrun

namespace Action

mutual

theorem exec_kept (hP : Kept P) (captures : Pattern.Captures) :
    ∀ {action : Action ε}, action.Allows (KeptBy P) → ∀ {s : State ε}, P s →
      P (exec captures action s).2
  | emit kinds, _, s, hs => by
    simp only [exec]
    split
    · exact hs
    · exact hs
    · exact hP.emitAll _ hs
  | score delta, _, s, hs => hP.addScore delta hs
  | enter mode, _, s, hs => by
    simp only [exec]
    split
    · next s' h => exact hP.of_enter hs h
    · exact hs
  | exit, _, s, hs => by
    simp only [exec]
    split
    · next s' h => exact hP.of_exit hs h
    · exact hs
  | sequence actions, .sequence h, s, hs => by
    simpa only [exec] using execAll_kept hP captures false h hs
  | custom procedure, .custom h, s, hs => by
    simpa only [exec] using Procedure.run_kept hP (h captures) hs

theorem execAll_kept (hP : Kept P) (captures : Pattern.Captures) (fired : Bool) :
    ∀ {actions : List (Action ε)}, (∀ action ∈ actions, action.Allows (KeptBy P)) →
      ∀ {s : State ε}, P s → P (execAll captures fired actions s).2
  | [], _, _, hs => hs
  | action :: actions, h, s, hs => by
    obtain ⟨hfirst, hmore⟩ := List.forall_mem_cons.1 h
    have haction := exec_kept hP captures hfirst hs
    simp only [execAll]
    split
    · next fired' s' hexec =>
      rw [hexec] at haction
      exact execAll_kept hP captures fired' hmore haction
    · next e s' hexec => rwa [hexec] at haction

end

end Action

theorem CompiledRule.exec_kept (hP : Kept P) {r : CompiledRule ε} (hr : r.Allows (KeptBy P))
    (hs : P s) : P (r.exec s).2 := by
  cases r with
  | pattern p action =>
    simp only [exec]
    split
    · exact Action.exec_kept hP _ hr hs
    · exact hs
  | procedure p => exact Procedure.run_kept hP hr hs

namespace State

/-- The parts of a state that no rule changes, apart from the number of the rule. -/
structure Frame where
  grammar : String
  modeNames : List String
  markers : List Text
  stop : Option Token

def frame (s : State ε) : Frame := ⟨s.grammar, s.modeNames, s.markers, s.stop⟩

/-- The state of a scan with the named grammar, in modes with the given names. -/
structure Scans (grammar : String) (names : List String) (s : State ε) : Prop where
  grammar : s.grammar = grammar
  names : s.modeNames = names
  inModes : s.InModes

theorem kept_frame (f : Frame) : Kept fun s : State ε => s.frame = f :=
  ⟨fun _ _ _ hs => hs, fun _ hs => hs, fun hs _ => hs, fun hs _ => hs⟩

theorem kept_rule (number : Nat) : Kept fun s : State ε => s.rule = number :=
  ⟨fun _ _ _ hs => hs, fun _ hs => hs, fun hs _ => hs, fun hs _ => hs⟩

theorem kept_grammar (grammar : String) : Kept fun s : State ε => s.grammar = grammar :=
  ⟨fun _ _ _ hs => hs, fun _ hs => hs, fun hs _ => hs, fun hs _ => hs⟩

theorem kept_modeNames (names : List String) : Kept fun s : State ε => s.modeNames = names :=
  ⟨fun _ _ _ hs => hs, fun _ hs => hs, fun hs _ => hs, fun hs _ => hs⟩

/-- A score that has wrapped around has done so for good. -/
theorem kept_overflowed : Kept fun s : State ε => s.overflowed = true :=
  ⟨fun _ _ _ hs => hs, fun _ hs => by simp [addScore, hs], fun hs _ => hs, fun hs _ => hs⟩

theorem grammar_keptBy (grammar : String) (i : Intervention ε) :
    KeptBy (fun s => s.grammar = grammar) i := fun s hs => (i.grammar_eq s).trans hs

theorem modeNames_keptBy (names : List String) (i : Intervention ε) :
    KeptBy (fun s => s.modeNames = names) i := fun s hs => (i.modeNames_eq s).trans hs

theorem kept_inModes : Kept fun s : State ε => s.InModes where
  contents _ _ _ hs := ⟨hs.mode, hs.stack⟩
  addScore _ hs := ⟨hs.mode, hs.stack⟩
  enter {s _ _} hs hmode := by
    obtain ⟨hlt, -⟩ := List.idxOf?_eq_some_iff.1 hmode
    exact ⟨hlt, List.forall_mem_cons.2 ⟨hs.mode, hs.stack⟩⟩
  exit {s _ _} hs hstack := by
    have hall := List.forall_mem_cons.1 (hstack ▸ hs.stack)
    exact ⟨hall.1, hall.2⟩

section

variable {grammar : String} {names : List String}

theorem kept_scans : Kept fun s : State ε => s.Scans grammar names where
  contents text queue extension hs :=
    ⟨hs.grammar, hs.names, kept_inModes.contents text queue extension hs.inModes⟩
  addScore delta hs := ⟨hs.grammar, hs.names, kept_inModes.addScore delta hs.inModes⟩
  enter hs hmode := ⟨hs.grammar, hs.names, kept_inModes.enter hs.inModes hmode⟩
  exit hs hstack := ⟨hs.grammar, hs.names, kept_inModes.exit hs.inModes hstack⟩

/-- No intervention leaves the grammar or its modes. -/
theorem scans_keptBy (i : Intervention ε) : KeptBy (Scans grammar names) i := fun s hs =>
  ⟨(i.grammar_eq s).trans hs.grammar, (i.modeNames_eq s).trans hs.names, i.inModes hs.inModes⟩

/-- What else changes in the state does not matter. -/
theorem Scans.of_same {s t : State ε} (hs : s.Scans grammar names)
    (hgrammar : t.grammar = s.grammar) (hnames : t.modeNames = s.modeNames)
    (hmode : t.mode = s.mode) (hstack : t.stack = s.stack) : t.Scans grammar names := by
  obtain ⟨rfl, rfl, hin⟩ := hs
  refine ⟨hgrammar, hnames, ?_, ?_⟩
  · rw [hmode, hnames]
    exact hin.mode
  · rw [hstack, hnames]
    exact hin.stack

theorem Scans.exists_mode {s : State ε} {modes : List (CompiledMode ε)}
    (hs : s.Scans grammar (modes.map (·.name))) : ∃ mode, modes[s.mode]? = some mode := by
  have hlt := hs.inModes.mode
  rw [hs.names, List.length_map] at hlt
  exact ⟨modes[s.mode], List.getElem?_eq_getElem hlt⟩

end

end State

theorem Action.exec_frame (captures : Pattern.Captures) {action : Action ε} (haction : action.Plain)
    (s : State ε) : (exec captures action s).2.frame = s.frame :=
  exec_kept (kept_frame s.frame) captures haction.allows rfl

theorem CompiledRule.exec_frame {r : CompiledRule ε} (hr : r.Plain) (s : State ε) :
    (r.exec s).2.frame = s.frame := exec_kept (kept_frame s.frame) hr.allows rfl

/-- A plain rule does not change which rule is being tried. -/
theorem CompiledRule.exec_rule {r : CompiledRule ε} (hr : r.Plain) (s : State ε) :
    (r.exec s).2.rule = s.rule := exec_kept (kept_rule s.rule) hr.allows rfl

namespace Engine

variable {modes : List (CompiledMode ε)}

theorem start_scans {g : Grammar ε} {text : Text} {start : Engine ε}
    (h : Engine.start g text = .ok start) :
    start.state.Scans g.name (start.modes.map (·.name)) := by
  obtain ⟨hcompile, hstate⟩ := start_cases h
  have hpos : 0 < start.modes.length := List.length_pos_iff.2 (Grammar.ne_nil_of_compile hcompile)
  rw [hstate]
  exact ⟨rfl, rfl, by simpa using hpos, by simp⟩

/-- The rules of the modes keep the property, whatever their numbers are, and so does the engine
when it cuts the text and when it queues a stop of its own. -/
structure Preserves (modes : List (CompiledMode ε)) (P : State ε → Prop) : Prop where
  exec : ∀ mode ∈ modes, ∀ rule ∈ mode.rules, ∀ {s : State ε} (number : Nat), P s →
    P (rule.exec { s with rule := number }).2
  cut : ∀ {s : State ε} (text : Text), P s → P { s with text }
  push : ∀ {s : State ε} (kind : TokenType) (text : Text),
    kind ∈ [.stopError, .stopEndOfString, .stopLexer] → P s → P (s.push ⟨some kind, text⟩)

/-- What all operations keep is kept by the rules of modes whose interventions keep it, unless it
depends on the number of the rule. -/
theorem preserves_of_kept (hP : Kept P)
    (hrule : ∀ {s : State ε} (rule : Nat), P s → P { s with rule })
    (hmodes : Allows (KeptBy P) modes) : Preserves modes P where
  exec mode hmode rule hmem _ number hs :=
    CompiledRule.exec_kept hP (hmodes mode hmode rule hmem) (hrule number hs)
  cut {s} text hs := hP.contents text s.queue s.extension hs
  push _ _ _ hs := hP.push hs _

theorem Preserves.tryRules (hP : Preserves modes P) {mode : CompiledMode ε} (hmode : mode ∈ modes)
    {rules : List (CompiledRule ε)} (hrules : ∀ rule ∈ rules, rule ∈ mode.rules) (name : String)
    (index : Nat) (hs : P s) : P (Engine.tryRules name index rules s).2 := by
  induction rules generalizing index s with
  | nil => exact hP.push _ _ (by simp) hs
  | cons rule rules ih =>
    obtain ⟨hrule, hmore⟩ := List.forall_mem_cons.1 hrules
    have hfirst := hP.exec mode hmode rule hrule index hs
    simp only [Engine.tryRules]
    split
    · next s' h => rwa [h] at hfirst
    · next s' h => rw [h] at hfirst; exact ih hmore _ hfirst
    · next e s' h => rw [h] at hfirst; exact hP.push _ _ (by simp) hfirst
    · next f s' h => rwa [h] at hfirst

theorem Preserves.pass (hP : Preserves modes P) (hs : P s) : P (Engine.pass modes s).2 := by
  simp only [Engine.pass]
  split
  · exact hP.push _ _ (by simp) hs
  · split
    · exact hP.push _ _ (by simp) (hP.cut _ hs)
    · split
      · next mode hmode =>
        exact hP.tryRules (List.mem_of_getElem? hmode) (fun _ hrule => hrule) _ _ hs
      · exact hs

theorem pass_kept (hP : Kept P) (hrule : ∀ {s : State ε} (rule : Nat), P s → P { s with rule })
    (hmodes : Allows (KeptBy P) modes) (hs : P s) : P (pass modes s).2 :=
  (preserves_of_kept hP hrule hmodes).pass hs

theorem frame_of_pass (hplain : Plain modes) {s s' : State ε}
    {e? : Except Fault (Option RuleError)} (h : pass modes s = (e?, s')) : s'.frame = s.frame := by
  have hframe : (pass modes s).2.frame = s.frame :=
    pass_kept (kept_frame s.frame) (fun _ hs => hs) hplain.allows rfl
  rwa [h] at hframe

end Engine

end ModalLexer
