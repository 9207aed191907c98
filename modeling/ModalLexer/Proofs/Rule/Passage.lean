import ModalLexer.Proofs.Engine.Frame

/-! # The states that a rule passes through

A rule makes its way through the operations of its procedure or its action, and another state stands
behind each of them. The last of these states is the one that the rule leaves, and a property that
the operations keep holds in all of them. Code that intervenes counts as a single operation.
-/

namespace ModalLexer

variable {ε : Type}

open State

/-- The states while pieces are queued. -/
def State.emitTrace (s : State ε) : List (TokenType × Nat) → List (State ε)
  | [] => [s]
  | (kind, n) :: rest =>
    s :: match s.emit kind n with
      | .ok t => t.emitTrace rest
      | .error _ => []

/-- The states while a procedure runs. -/
def Procedure.trace : Procedure ε → State ε → List (State ε)
  | done _, s => [s]
  | fail _, s => [s]
  | inspect next, s => s :: (next { s with markers := [] }).trace s
  | push token next, s => s :: next.trace (s.push token)
  | consume n next, s =>
    s :: match s.consume n with
      | .ok (text, t) => (next text).trace t
      | .error _ => []
  | emit kind n next, s =>
    s :: match s.emit kind n with
      | .ok t => next.trace t
      | .error _ => []
  | scan scanner next, s => s :: (next (s.scan scanner).1).trace (s.scan scanner).2
  | scanBytes kind n next, s =>
    s :: match s.scanBytes kind n with
      | .ok (fired, t) => (next fired).trace t
      | .error _ => []
  | addScore delta next, s => s :: next.trace (s.addScore delta)
  | enter mode next, s =>
    s :: match s.enter mode with
      | .ok t => (next none).trace t
      | .error e => (next (some e)).trace s
  | exit next, s =>
    s :: match s.exit with
      | .ok t => (next none).trace t
      | .error e => (next (some e)).trace s
  | modifyExtension f next, s => s :: next.trace { s with extension := s.extension.map f }
  | intervene i next, s =>
    s :: match i.run s with
      | (.ok token?, t) => (next token?).trace t
      | (.error _, t) => [t]

namespace Action

mutual

/-- The states while an action is carried out. -/
def trace (captures : Pattern.Captures) : Action ε → State ε → List (State ε)
  | emit kinds, s =>
    match emission kinds captures with
    | .ok pieces => s.emitTrace pieces
    | .error _ => [s]
  | score delta, s => [s, s.addScore delta]
  | enter mode, s =>
    match s.enter mode with
    | .ok t => [s, t]
    | .error _ => [s]
  | exit, s =>
    match s.exit with
    | .ok t => [s, t]
    | .error _ => [s]
  | sequence actions, s => traceAll captures actions s
  | custom procedure, s => (procedure captures).trace s

def traceAll (captures : Pattern.Captures) : List (Action ε) → State ε → List (State ε)
  | [], s => [s]
  | action :: actions, s =>
    trace captures action s ++
      match exec captures action s with
      | (.ok _, t) => traceAll captures actions t
      | (.error _, _) => []

end

end Action

/-- The states while a rule is tried. -/
def CompiledRule.trace : CompiledRule ε → State ε → List (State ε)
  | pattern p action, s =>
    match p.search s.text with
    | some captures => action.trace captures s
    | none => [s]
  | procedure p, s => p.trace s

theorem State.getLast?_emitTrace (pieces : List (TokenType × Nat)) (s : State ε) :
    (s.emitTrace pieces).getLast? = some (s.emitAll pieces).2 := by
  induction pieces generalizing s with
  | nil => rfl
  | cons piece pieces ih =>
    simp only [emitTrace, emitAll]
    cases s.emit piece.1 piece.2 with
    | ok t => simp [List.getLast?_cons, ih t]
    | error f => rfl

theorem Procedure.getLast?_trace (p : Procedure ε) (s : State ε) :
    (p.trace s).getLast? = some (p.run s).2 := by
  induction p generalizing s with
  | done | fail => rfl
  | inspect next ih => simp [trace, run, List.getLast?_cons, ih]
  | push token next ih => simp [trace, run, List.getLast?_cons, ih]
  | consume n next ih =>
    simp only [trace, run]
    cases s.consume n with
    | ok r => simp [List.getLast?_cons, ih]
    | error f => rfl
  | emit kind n next ih =>
    simp only [trace, run]
    cases s.emit kind n with
    | ok t => simp [List.getLast?_cons, ih]
    | error f => rfl
  | scan scanner next ih => simp [trace, run, List.getLast?_cons, ih]
  | scanBytes kind n next ih =>
    simp only [trace, run]
    cases s.scanBytes kind n with
    | ok r => simp [List.getLast?_cons, ih]
    | error f => rfl
  | addScore delta next ih => simp [trace, run, List.getLast?_cons, ih]
  | enter mode next ih =>
    simp only [trace, run]
    cases s.enter mode <;> simp [List.getLast?_cons, ih]
  | exit next ih =>
    simp only [trace, run]
    cases s.exit <;> simp [List.getLast?_cons, ih]
  | modifyExtension f next ih => simp [trace, run, List.getLast?_cons, ih]
  | intervene i next ih =>
    simp only [trace, run]
    cases i.run s with
    | mk answer t => cases answer <;> simp [List.getLast?_cons, ih]

namespace Action

mutual

theorem getLast?_trace (captures : Pattern.Captures) :
    ∀ (action : Action ε) (s : State ε),
      (trace captures action s).getLast? = some (exec captures action s).2
  | emit kinds, s => by
    simp only [trace, exec]
    cases emission kinds captures with
    | error e => rfl
    | ok pieces =>
      cases pieces with
      | nil => rfl
      | cons piece pieces => exact getLast?_emitTrace _ s
  | score delta, s => rfl
  | enter mode, s => by
    simp only [trace, exec]
    cases s.enter mode <;> rfl
  | exit, s => by
    simp only [trace, exec]
    cases s.exit <;> rfl
  | sequence actions, s => by
    simp only [trace, exec]
    exact getLast?_traceAll captures false actions s
  | custom procedure, s => by
    simp only [trace, exec]
    exact (procedure captures).getLast?_trace s

theorem getLast?_traceAll (captures : Pattern.Captures) (fired : Bool) :
    ∀ (actions : List (Action ε)) (s : State ε),
      (traceAll captures actions s).getLast? = some (execAll captures fired actions s).2
  | [], s => rfl
  | action :: actions, s => by
    have hfirst := getLast?_trace captures action s
    simp only [traceAll, execAll]
    cases hexec : exec captures action s with
    | mk result t =>
      cases result with
      | ok fired' =>
        have hrest := getLast?_traceAll captures fired' actions t
        simp [List.getLast?_append, hrest]
      | error e =>
        rw [hexec] at hfirst
        simpa using hfirst

end

end Action

/-- The last state is the one that the rule leaves. -/
theorem CompiledRule.getLast?_trace (r : CompiledRule ε) (s : State ε) :
    (r.trace s).getLast? = some (r.exec s).2 := by
  cases r with
  | pattern p action =>
    simp only [trace, exec]
    cases p.search s.text with
    | none => rfl
    | some captures => exact action.getLast?_trace captures s
  | procedure p => exact p.getLast?_trace s

variable {P : State ε → Prop} {s : State ε}

theorem State.Kept.emitTrace (hP : Kept P) (pieces : List (TokenType × Nat)) (hs : P s) :
    ∀ t ∈ s.emitTrace pieces, P t := by
  induction pieces generalizing s with
  | nil => exact List.forall_mem_singleton.2 hs
  | cons piece pieces ih =>
    simp only [State.emitTrace]
    refine List.forall_mem_cons.2 ⟨hs, ?_⟩
    split
    · next t h => exact ih (hP.emit hs h)
    · exact List.forall_mem_nil _

theorem Procedure.trace_kept (hP : Kept P) {p : Procedure ε} (hp : p.Allows (KeptBy P))
    (hs : P s) : ∀ t ∈ p.trace s, P t := by
  induction p generalizing s with
  | done | fail => exact List.forall_mem_singleton.2 hs
  | inspect next ih => exact List.forall_mem_cons.2 ⟨hs, ih _ (hp _) hs⟩
  | push token next ih => exact List.forall_mem_cons.2 ⟨hs, ih hp (hP.push hs token)⟩
  | consume n next ih =>
    simp only [trace]
    refine List.forall_mem_cons.2 ⟨hs, ?_⟩
    split
    · next text t h => exact ih text (hp text) (hP.consume hs h)
    · exact List.forall_mem_nil _
  | emit kind n next ih =>
    simp only [trace]
    refine List.forall_mem_cons.2 ⟨hs, ?_⟩
    split
    · next t h => exact ih hp (hP.emit hs h)
    · exact List.forall_mem_nil _
  | scan scanner next ih => exact List.forall_mem_cons.2 ⟨hs, ih _ (hp _) (hP.accept hs _)⟩
  | scanBytes kind n next ih =>
    simp only [trace]
    refine List.forall_mem_cons.2 ⟨hs, ?_⟩
    split
    · next fired t h => exact ih fired (hp fired) (hP.scanBytes hs h)
    · exact List.forall_mem_nil _
  | addScore delta next ih => exact List.forall_mem_cons.2 ⟨hs, ih hp (hP.addScore delta hs)⟩
  | enter mode next ih =>
    simp only [trace]
    refine List.forall_mem_cons.2 ⟨hs, ?_⟩
    split
    · next t h => exact ih none (hp none) (hP.of_enter hs h)
    · exact ih _ (hp _) hs
  | exit next ih =>
    simp only [trace]
    refine List.forall_mem_cons.2 ⟨hs, ?_⟩
    split
    · next t h => exact ih none (hp none) (hP.of_exit hs h)
    · exact ih _ (hp _) hs
  | modifyExtension f next ih =>
    exact List.forall_mem_cons.2
      ⟨hs, ih hp (hP.contents s.text s.queue (s.extension.map f) hs)⟩
  | intervene i next ih =>
    have hrun := hp.1 s hs
    simp only [trace]
    refine List.forall_mem_cons.2 ⟨hs, ?_⟩
    split
    · next token? t h =>
      rw [h] at hrun
      exact ih token? (hp.2 token?) hrun
    · next f t h =>
      rw [h] at hrun
      exact List.forall_mem_singleton.2 hrun

namespace Action

mutual

theorem trace_kept (hP : Kept P) (captures : Pattern.Captures) :
    ∀ {action : Action ε}, action.Allows (KeptBy P) → ∀ {s : State ε}, P s →
      ∀ t ∈ trace captures action s, P t
  | emit kinds, _, s, hs => by
    simp only [trace]
    split
    · exact hP.emitTrace _ hs
    · exact List.forall_mem_singleton.2 hs
  | score delta, _, s, hs =>
    List.forall_mem_cons.2 ⟨hs, List.forall_mem_singleton.2 (hP.addScore delta hs)⟩
  | enter mode, _, s, hs => by
    simp only [trace]
    split
    · next t h => exact List.forall_mem_cons.2 ⟨hs, List.forall_mem_singleton.2 (hP.of_enter hs h)⟩
    · exact List.forall_mem_singleton.2 hs
  | exit, _, s, hs => by
    simp only [trace]
    split
    · next t h => exact List.forall_mem_cons.2 ⟨hs, List.forall_mem_singleton.2 (hP.of_exit hs h)⟩
    · exact List.forall_mem_singleton.2 hs
  | sequence actions, .sequence h, s, hs => by
    simpa only [trace] using traceAll_kept hP captures h hs
  | custom procedure, .custom h, s, hs => by
    simpa only [trace] using Procedure.trace_kept hP (h captures) hs

theorem traceAll_kept (hP : Kept P) (captures : Pattern.Captures) :
    ∀ {actions : List (Action ε)}, (∀ action ∈ actions, action.Allows (KeptBy P)) →
      ∀ {s : State ε}, P s → ∀ t ∈ traceAll captures actions s, P t
  | [], _, _, hs => List.forall_mem_singleton.2 hs
  | action :: actions, h, s, hs => by
    obtain ⟨hfirst, hmore⟩ := List.forall_mem_cons.1 h
    have hleft := exec_kept hP captures hfirst hs
    simp only [traceAll]
    refine List.forall_mem_append.2 ⟨trace_kept hP captures hfirst hs, ?_⟩
    split
    · next fired t h =>
      rw [h] at hleft
      exact traceAll_kept hP captures hmore hleft
    · exact List.forall_mem_nil _

end

end Action

theorem CompiledRule.trace_kept (hP : Kept P) {r : CompiledRule ε} (hr : r.Allows (KeptBy P))
    (hs : P s) : ∀ t ∈ r.trace s, P t := by
  cases r with
  | pattern p action =>
    simp only [trace]
    split
    · exact Action.trace_kept hP _ hr hs
    · exact List.forall_mem_singleton.2 hs
  | procedure p => exact Procedure.trace_kept hP hr hs

end ModalLexer
