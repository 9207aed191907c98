import ModalLexer.Proofs.Engine.Naming
import ModalLexer.Proofs.Engine.Safety
import ModalLexer.Proofs.Taxonomy.Ancestry
import ModalLexer.Report.Scan

/-! # Which scans are reported as errors

A scan is reported as an error by the name of the type of its stop. Names are unique among the
registered types, so these are the scans whose stop has the error type itself. A type registered
below it ends scans too, but such a scan is not reported as an error.
-/

namespace ModalLexer

variable {ε : Type} {a : TypeArena}

def TypeArena.Registered (a : TypeArena) (kind : TokenType) : Prop :=
  ∃ t < a.size, a.typeAt t = kind

namespace TypeArena

theorem registered_of_mem_builtinTypes (ha : builtin.Reaches a) :
    ∀ kind ∈ builtinTypes, a.Registered kind :=
  fun _ hkind => ⟨_, typeAt_idxOf_builtinTypes ha hkind⟩

/-- A registered type is the one that its name says. -/
theorem Registered.eq_of_name {kind kind' : TokenType} (ha : builtin.Reaches a)
    (h : a.Registered kind) (h' : a.Registered kind') (hname : kind.name = kind'.name) :
    kind = kind' := by
  obtain ⟨t, ht, rfl⟩ := h
  obtain ⟨u, hu, rfl⟩ := h'
  rw [name_typeAt, name_typeAt] at hname
  rw [(wellFormed_builtin.of_reaches ha).name_inj ht hu hname]

end TypeArena

open TypeArena

theorem Grammar.names_ofRule {named : TokenType → Prop} {source : String} {action : Action ε}
    (h : action.Names named) : (Grammar.ofRule source action).Names named :=
  forall_ofRule (P := Rule.Names named) h

theorem Token.isStop_iff {token : Token} :
    token.isStop = true ↔ ∃ kind, token.kind = some kind ∧ kind.IsA .stop := by
  cases hkind : token.kind <;> simp [isStop, isA, hkind]

namespace Run

variable {r : Run ε} {kind : TokenType}

theorem isError_report_iff (ha : builtin.Reaches a) (hkind : r.stop.kind = some kind)
    (h : a.Registered kind) : r.report.isError = true ↔ kind = .stopError := by
  have hname : r.report.isError = true ↔ kind.name = TokenType.stopError.name := by
    rw [ScanReport.isError, report, Token.record, Token.kindName, hkind]
    exact decide_eq_true_iff
  have herror := registered_of_mem_builtinTypes ha .stopError (by decide)
  rw [hname]
  exact ⟨fun heq => h.eq_of_name ha herror heq, fun heq => heq ▸ rfl⟩

/-- A scan with rules that name registered types ends with a stop of a registered type. It is
reported as an error exactly if that is the error type itself, and then it has ended on an error.
So the report is right about errors exactly if the stop is not of a type below the error type, which
is always the case if no type is registered there. -/
theorem error_report_goes_by_name (ha : builtin.Reaches a) {g : Grammar ε}
    (hg : g.Names a.Registered) {text : Text} {markers : List Text} {start e : Engine ε}
    (hstart : Engine.start g text = .ok start)
    (he : e = start.addMarkers markers ∨ ∃ x, e = (start.addMarkers markers).withExtension x)
    {limit : Nat} (hr : e.run limit = .ok r) :
    ∃ kind, r.stop.kind = some kind ∧ a.Registered kind ∧ kind.IsA .stop ∧
      (r.report.isError = true ↔ kind = .stopError) ∧
      (r.report.isError = true → r.stop.isA .stopError = true) ∧
      (r.report.isError = r.stop.isA .stopError ↔ (kind.IsA .stopError → kind = .stopError)) ∧
      ((∀ k, a.Registered k → k.IsA .stopError → k = .stopError) →
        r.report.isError = r.stop.isA .stopError) := by
  obtain ⟨hcompile, hstate⟩ := Engine.start_cases hstart
  have hfresh : e.modes = start.modes ∧ e.state.queue.toList = [] ∧ e.state.stop = none := by
    rcases he with rfl | ⟨x, rfl⟩ <;>
      simp [Engine.addMarkers, Engine.withExtension, State.addMarkers, hstate]
  obtain ⟨hmodes, hqueue, hlive⟩ := hfresh
  obtain ⟨kind, hkind, hstop⟩ := Token.isStop_iff.1 (Engine.stop_of_run hr).1
  have hregistered : a.Registered kind :=
    Engine.named_stop_of_run (registered_of_mem_builtinTypes ha) (hmodes ▸ hg.compile hcompile)
      ⟨by simp [hqueue], by simp [hlive]⟩ hr kind hkind
  have herror := isError_report_iff ha hkind hregistered
  have hisA : r.stop.isA .stopError = true ↔ kind.IsA .stopError := by
    simp [Token.isA, hkind]
  have hsound : kind = .stopError → kind.IsA .stopError := by
    rintro rfl
    decide
  have hagree : r.report.isError = r.stop.isA .stopError
      ↔ (kind.IsA .stopError → kind = .stopError) := by
    rw [Bool.eq_iff_iff, herror, hisA]
    exact ⟨fun h => h.2, fun h => ⟨hsound, h⟩⟩
  exact ⟨kind, hkind, hregistered, hstop, herror, fun h => hisA.2 (hsound (herror.1 h)), hagree,
    fun hleaf => hagree.2 (hleaf kind hregistered)⟩

/-- A taxonomy with a type below the error type. -/
def arenaWithFatal : TypeArena :=
  (builtin.tryRegister (some ⟨1, by decide +kernel⟩) "Stop.Error.Fatal").2

theorem reaches_arenaWithFatal : builtin.Reaches arenaWithFatal := .call .refl _ _

/-- The type below the error type does no harm to a scan that ends on the error type itself. -/
theorem error_report_goes_by_name_beside_fatal : ∃ start r,
    Engine.start (.ofRule "x" (.emit [.stopError]) : Grammar Unit) "x".toList = .ok start ∧
    (start.addMarkers []).run 1 = .ok r ∧ r.stop = ⟨some .stopError, ['x']⟩ ∧
    r.report.isError = true := by
  obtain ⟨start, hstart, r, hr, hstop⟩ : ∃ start,
      Engine.start (.ofRule "x" (.emit [.stopError]) : Grammar Unit) "x".toList = .ok start ∧
      ∃ r, (start.addMarkers []).run 1 = .ok r ∧ r.stop = ⟨some .stopError, ['x']⟩ := by
    decide +kernel
  have herror := registered_of_mem_builtinTypes reaches_arenaWithFatal .stopError (by decide)
  have hnames : (.ofRule "x" (.emit [.stopError]) : Grammar Unit).Names
      arenaWithFatal.Registered := Grammar.names_ofRule (.emit (by simpa using herror))
  obtain ⟨kind, hkind, -, -, hreport, -⟩ :=
    error_report_goes_by_name reaches_arenaWithFatal hnames hstart (.inl rfl) hr
  refine ⟨start, r, hstart, hr, hstop, hreport.2 ?_⟩
  rw [hstop] at hkind
  exact (Option.some.inj hkind).symm

/-- A scan that ends on a type below the error type is not reported as an error. -/
theorem fatal_stop_is_not_reported :
    let fatal := TokenType.child .stopError "Stop.Error.Fatal"
    builtin.Reaches arenaWithFatal ∧
    (.ofRule "x" (.emit [fatal]) : Grammar Unit).Names arenaWithFatal.Registered ∧
    ∃ r, (.ofRule "x" (.emit [fatal]) : Grammar Unit).scan "x".toList [] 1 = .ok r ∧
      r.stop.isA .stopError = true ∧ r.report.isError = false := by
  intro fatal
  have hfatal : arenaWithFatal.Registered fatal :=
    ⟨46, by decide +kernel, by decide +kernel⟩
  refine ⟨reaches_arenaWithFatal, Grammar.names_ofRule (.emit (by simpa using hfatal)), ?_⟩
  have hrun : ∃ r, (.ofRule "x" (.emit [.child .stopError "Stop.Error.Fatal"]) :
      Grammar Unit).scan "x".toList [] 1 = .ok r ∧
      r.stop.isA .stopError = true ∧ r.report.isError = false := by
    decide +kernel
  exact hrun

end Run

end ModalLexer
