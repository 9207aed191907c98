import ModalLexer.Proofs.Engine.Lexing
import ModalLexer.Proofs.Engine.Markers

/-! # Runs to the stop

A scan that comes to a stop without stop markers does so with any markers, in no more requests. The
grammars whose scans always have a next step, so those of the languages, come to a stop on every
text.
-/

namespace ModalLexer

variable {ε : Type}

namespace Engine

variable {e : Engine ε} {r : Run ε} {limit : Nat}

/-- What the passes and taking a token keep holds of the state that a run ends in. -/
theorem Preserves.run {P : State ε → Prop} (hP : Preserves e.modes P)
    (hdequeue : ∀ {s : State ε}, P s → P (dequeue s).2) (hr : e.run limit = .ok r)
    (he : P e.state) : P r.last.state := by
  induction limit generalizing e r with
  | zero => cases hr
  | succ limit ih =>
    obtain ⟨hmodes, hkept⟩ := hP.nextToken hdequeue he
    rw [Engine.run] at hr
    split at hr
    · cases hr
    · next token e' hnext =>
      rw [hnext] at hmodes hkept
      split at hr
      · cases hr
        exact hkept
      · cases hrest : e'.run limit with
        | error f => simp [hrest] at hr
        | ok rest =>
          have hlast : P rest.last.state := ih (hmodes ▸ hP) hrest hkept
          simp only [hrest, Except.ok.injEq] at hr
          rwa [← hr]

/-- A run ends with a request that is answered by its stop. -/
theorem stop_of_run (hr : e.run limit = .ok r) :
    r.stop.isStop = true ∧ r.last.state.stop = some r.stop := by
  induction limit generalizing e r with
  | zero => cases hr
  | succ limit ih =>
    rw [Engine.run] at hr
    split at hr
    · cases hr
    · next token e' hnext =>
      split at hr
      · next htoken =>
        cases hr
        refine ⟨htoken, ?_⟩
        cases hstop : e.state.stop with
        | some stop =>
          rw [nextToken_of_halted hstop] at hnext
          cases hnext
          exact hstop
        | none =>
          obtain ⟨s, queued, hfill, hq⟩ := fill_of_nextToken hstop hnext
          obtain ⟨queue, -, hsame⟩ := nextToken_eq_of_fill hstop hfill hq
          rw [hsame] at hnext
          cases hnext
          exact if_pos htoken
      · cases hrest : e'.run limit with
        | error f => simp [hrest] at hr
        | ok rest =>
          have hends := ih hrest
          simp only [hrest, Except.ok.injEq] at hr
          rwa [← hr]

/-- If a scan with plain rules comes to a stop without its markers, it does so with them. -/
theorem exists_run_of_unmarked (hplain : Plain e.modes) (hlive : e.state.stop = none)
    (hr : e.unmarked.run limit = .ok r) : ∃ r', e.run limit = .ok r' := by
  induction limit generalizing e r with
  | zero => cases hr
  | succ limit ih =>
    rcases nextToken_unmarked hplain hlive with hsame | ⟨u, marker, hu, hmarker⟩
    · rw [run, hsame] at hr
      cases hnext : e.nextToken with
      | mk answer e' =>
        cases answer with
        | error f => simp [hnext] at hr
        | ok token =>
          cases htoken : token.isStop with
          | true => exact ⟨_, run_stop hnext htoken⟩
          | false =>
            have hlive' : e'.state.stop = none := by
              obtain ⟨s, queue, -, -, rfl⟩ := nextToken_cases hplain hlive hnext
              simp [htoken]
            have hplain' : Plain e'.modes := by
              have hmodes := modes_nextToken e
              rw [hnext] at hmodes
              exact hmodes ▸ hplain
            simp only [hnext, htoken, Bool.false_eq_true, if_false] at hr
            cases hrest : e'.unmarked.run limit with
            | error f => simp [hrest] at hr
            | ok rest =>
              obtain ⟨rest', hrest'⟩ := ih hplain' hlive' hrest
              exact ⟨_, run_succ hnext htoken hrest'⟩
    · obtain ⟨queue, hnext⟩ := nextToken_of_marker hplain hlive hu hmarker
      exact ⟨_, run_stop hnext (isStop_stopLexer marker)⟩

end Engine

namespace Grammar

variable {g : Grammar ε} {text : Text} {r : Run ε} {limit : Nat}

theorem exists_scan_of_unmarked (hg : g.Plain) (hr : g.scan text [] limit = .ok r)
    (markers : List Text) : ∃ r', g.scan text markers limit = .ok r' := by
  simp only [scan] at hr ⊢
  cases hstart : Engine.start g text with
  | error e => simp [hstart] at hr
  | ok e =>
    obtain ⟨hcompile, hstate⟩ := Engine.start_cases hstart
    have hplain : Engine.Plain (e.addMarkers markers).modes := hg.compile hcompile
    have hunmarked : (e.addMarkers markers).unmarked = e.addMarkers [] := by
      simp [Engine.unmarked, Engine.addMarkers, State.addMarkers, State.mark, hstate]
    have hlive : (e.addMarkers markers).state.stop = none := by
      simp [Engine.addMarkers, State.addMarkers, hstate]
    simp only [hstart] at hr ⊢
    cases hrun : (e.addMarkers []).run limit with
    | error f => simp [hrun, Except.mapError] at hr
    | ok r =>
      obtain ⟨r', hr'⟩ := Engine.exists_run_of_unmarked hplain hlive (hunmarked ▸ hrun)
      exact ⟨r', by rw [hr']; rfl⟩

/-- A grammar with plain rules that has a next step as long as there is text comes to a stop on
every text, whatever the markers are. -/
theorem Keeps.exists_scan {I : List Token → Situation → Prop} {compiled : List (CompiledMode ε)}
    (hI : g.Keeps I) (hplain : g.Plain) (hg : g.compile = .ok compiled)
    (hstart : I [] (.start text)) (markers : List Text) :
    ∃ r, g.scan text markers (text.byteSize + 1) = .ok r := by
  obtain ⟨ts, c, hlexes, hend, -⟩ := hI.exists_lexes [] hstart
  obtain ⟨r, hr, -⟩ := Engine.scan_of_lexes hplain hg hlexes hend
  exact exists_scan_of_unmarked hplain hr markers

/-- The report of a scan names the grammar. -/
theorem grammar_of_scan {markers : List Text} (hr : g.scan text markers limit = .ok r) :
    r.last.state.grammar = g.name := by
  have hkept := State.kept_grammar (ε := ε) g.name
  simp only [scan] at hr
  cases hstart : Engine.start g text with
  | error e => simp [hstart] at hr
  | ok e =>
    obtain ⟨-, hstate⟩ := Engine.start_cases hstart
    simp only [hstart] at hr
    cases hrun : (e.addMarkers markers).run limit with
    | error f => simp [hrun, Except.mapError] at hr
    | ok r' =>
      simp only [hrun, Except.mapError, Except.ok.injEq] at hr
      rw [← hr]
      have hlaws :=
        Engine.allows_of_forall (State.grammar_keptBy g.name) (e.addMarkers markers).modes
      exact (Engine.preserves_of_kept hkept (fun _ hs => hs) hlaws).run
        (Engine.dequeue_kept hkept fun _ hs => hs) hrun
        (by simp [Engine.addMarkers, State.addMarkers, hstate])

end Grammar

end ModalLexer
