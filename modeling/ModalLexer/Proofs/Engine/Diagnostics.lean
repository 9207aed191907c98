import Mathlib.Data.List.Nodup
import ModalLexer.Proofs.Engine.Halting
import ModalLexer.Proofs.Engine.Passes

/-! # Diagnostics

A scan reports an error in two cases: a rule fails, or there are too many idle passes in a row. The
report names the grammar, a mode and the rule that was tried last. A rule that fails is named with
its mode. Behind idle passes the report names the mode that the last of them has left, which is not
the mode of the rule if the rule has entered or left a mode.
-/

namespace ModalLexer

variable {ε : Type}

/-- The text of the token that reports an error. -/
def RuleError.diagnostic (e : RuleError) (grammar mode : String) (rule : Nat) : Text :=
  (e.message ++ " (grammar='" ++ grammar ++ "', mode='" ++ mode ++ s!"', rule={rule})").toList

namespace State

variable {grammar : String} {names : List String} {s : State ε}

theorem Scans.modeName_eq (hs : s.Scans grammar names) :
    ∃ h : s.mode < names.length, s.modeName = names[s.mode] := by
  obtain ⟨-, rfl, hmodes, -⟩ := hs
  exact ⟨hmodes, by simp [modeName, hmodes]⟩

/-- Modes with different names are told apart by their names. -/
theorem Scans.modeName_eq_iff {t : State ε} (hnames : names.Nodup) (hs : s.Scans grammar names)
    (ht : t.Scans grammar names) : s.modeName = t.modeName ↔ s.mode = t.mode := by
  obtain ⟨hlt, hs⟩ := hs.modeName_eq
  obtain ⟨hlt', ht⟩ := ht.modeName_eq
  rw [hs, ht]
  exact hnames.getElem_inj_iff

theorem report_eq (s : State ε) (e : RuleError) (mode : String) :
    s.report e mode = ⟨some .stopError, e.diagnostic s.grammar mode s.rule⟩ := rfl

end State

namespace Engine

variable {modes : List (CompiledMode ε)} {s t u v : State ε} {e e' : Engine ε}

/-- The pass that begins in `u` behind a number of idle passes is the last one of its request: it
queues a token, or it is one idle pass too many. -/
inductive LastPass (modes : List (CompiledMode ε)) (idle : Nat) (u : State ε) :
    Option RuleError → State ε → Prop
  | filled {e? : Option RuleError} {t : State ε} (hpass : pass modes u = (.ok e?, t))
    (hq : t.queue.toList ≠ []) : LastPass modes idle u e? t
  | stalled {e? : Option RuleError} {v : State ε} (hpass : pass modes u = (.ok e?, v))
    (hq : v.queue.toList = []) (htext : v.text = u.text) (hidle : idle + 1 = maxIdlePasses) :
    LastPass modes idle u (some (.noProgress maxIdlePasses))
      (v.push (v.report (.noProgress maxIdlePasses) v.modeName))

theorem fillAfter_last (hplain : Plain modes) {e? : Option RuleError} (idle : Nat) (s : State ε)
    (h : fillAfter modes idle s = (.ok e?, t)) (hidle : idle < maxIdlePasses) :
    ∃ n u, Passes modes idle s n u ∧ LastPass modes n u e? t := by
  induction idle, s using passes_induction modes with
  | step idle s ih =>
    rw [fillAfter_eq] at h
    cases hpass : pass modes s with
    | mk answer v =>
      rw [hpass] at h
      cases answer with
      | error f => cases h
      | ok e' =>
        simp only at h
        split at h
        · next hfull =>
          cases h
          refine ⟨idle, s, .refl idle s, .filled hpass ?_⟩
          rw [Ne, ← Queue.isEmpty_iff, hfull]
          simp
        · next hempty =>
          have hq : v.queue.isEmpty = true := by simpa using hempty
          split at h
          · next hmore =>
            obtain ⟨n, u, hpasses, hlast⟩ := ih e' v hpass hq hmore h hmore
            exact ⟨n, u, .pass hpass hq hmore hpasses, hlast⟩
          · next hstalled =>
            -- A pass that takes text is followed by another one, so this one has taken none.
            have hsame : ¬ v.text.byteSize ≠ s.text.byteSize := by
              intro hmoved
              rw [idleAfter, if_pos hmoved] at hstalled
              exact hstalled (by decide)
            rw [idleAfter, if_neg hsame] at hstalled
            have hcount : idle + 1 = maxIdlePasses := by omega
            have htext : v.text = s.text := by
              have hsuffix : v.text <:+ s.text := by
                have hpass_suffix := pass_suffix hplain s
                rwa [hpass] at hpass_suffix
              exact Text.eq_of_suffix_of_byteSize hsuffix (not_not.1 hsame)
            cases h
            rw [hcount]
            exact ⟨idle, s, .refl idle s, .stalled hpass (Queue.isEmpty_iff.1 hq) htext hcount⟩

theorem Turn.getElem? {rules : List (CompiledRule ε)} {rule : CompiledRule ε} {number : Nat}
    (h : Turn 0 rules s rule number t) : rules[number]? = some rule := by
  obtain ⟨before, after, rfl, rfl, -⟩ := h
  simp

/-- The rule with the given number of the mode `mode` has its turn in the pass that begins in `u`,
and ends the pass with a result that is not that it declines. -/
def Decides (modes : List (CompiledMode ε)) (u : State ε) (mode : CompiledMode ε) (number : Nat)
    (result : Except Interruption Bool) (v : State ε) : Prop :=
  modes[u.mode]? = some mode ∧ ∃ rule t, mode.rules[number]? = some rule ∧
    Turn 0 mode.rules u rule number t ∧ rule.exec { t with rule := number } = (result, v)

theorem Decides.rule_eq (hplain : Plain modes) {mode : CompiledMode ε} {number : Nat}
    {result : Except Interruption Bool} (h : Decides modes u mode number result v) :
    v.rule = number := by
  obtain ⟨hmode, rule, t, hnumber, -, hexec⟩ := h
  have hfirst := hplain mode (List.mem_of_getElem? hmode) rule (List.mem_of_getElem? hnumber)
  have hrule := CompiledRule.exec_rule hfirst { t with rule := number }
  rwa [hexec] at hrule

/-- A pass that reports an error ends with the rule that has failed. -/
theorem decides_of_error {err : RuleError} (h : pass modes u = (.ok (some err), t)) :
    ∃ mode number v, Decides modes u mode number (.error (.error err)) v ∧
      t = v.push (v.report err mode.name) := by
  rcases pass_cases h with
    ⟨-, hnone, -⟩ | ⟨-, -, hnone, -⟩ | ⟨-, -, ⟨-, hnone, -⟩ | ⟨mode, hmode, htried⟩⟩
  · cases hnone
  · cases hnone
  · cases hnone
  · cases htried with
    | failed hturn hexec =>
      exact ⟨mode, _, _, ⟨hmode, _, _, hturn.getElem?, hturn, hexec⟩, State.fail_eq_push _ _ _⟩

/-- A pass that queues nothing ends with a rule that fires. -/
theorem decides_of_idle {e? : Option RuleError} (h : pass modes u = (.ok e?, v))
    (hq : v.queue.toList = []) : ∃ mode number, Decides modes u mode number (.ok true) v := by
  have hpush : ∀ (s : State ε) (token : Token), (s.push token).queue.toList ≠ [] := by
    intro s token
    simp [State.push]
  rcases pass_cases h with
    ⟨-, -, rfl⟩ | ⟨_, -, -, rfl⟩ | ⟨-, -, ⟨-, hnone, -⟩ | ⟨mode, hmode, htried⟩⟩
  · exact absurd hq (hpush _ _)
  · exact absurd hq (hpush _ _)
  · cases hnone
  · cases htried with
    | fired hturn hexec => exact ⟨mode, _, hmode, _, _, hturn.getElem?, hturn, hexec⟩
    | failed => exact absurd hq (hpush _ _)
    | unmatched => exact absurd hq (hpush _ _)

theorem Decides.named {grammar : String} {mode : CompiledMode ε} {number : Nat}
    {result : Except Interruption Bool} (h : Decides modes u mode number result v)
    (hu : u.Scans grammar (modes.map (·.name))) :
    u.modeName = mode.name ∧ number < mode.rules.length := by
  obtain ⟨hmode, rule, t, hrule, -⟩ := h
  obtain ⟨hlt, hname⟩ := hu.modeName_eq
  obtain ⟨_, rfl⟩ := List.getElem?_eq_some_iff.1 hmode
  obtain ⟨hnumber, -⟩ := List.getElem?_eq_some_iff.1 hrule
  exact ⟨by simpa using hname, hnumber⟩

/-- A last pass that reports an error names the rule that has ended it, with the mode of the rule if
that has failed, and else with the mode that the pass has left. -/
theorem LastPass.reports {grammar : String} {names : List String} {idle : Nat} {err : RuleError}
    (hplain : Plain modes) (h : LastPass modes idle u (some err) t) (hu : u.Scans grammar names) :
    ∃ mode number result v named, Decides modes u mode number result v ∧
      v.Scans grammar names ∧ t = v.push ⟨some .stopError, err.diagnostic grammar named number⟩ ∧
      (result = .error (.error err) ∧ named = mode.name ∨
        result = .ok true ∧ err = .noProgress maxIdlePasses ∧ idle + 1 = maxIdlePasses ∧
          v.text = u.text ∧ v.queue.toList = [] ∧ named = v.modeName) := by
  have hpassed : (pass modes u).2.Scans grammar names :=
    pass_kept State.kept_scans (fun _ hs => hs.of_same rfl rfl rfl rfl)
      (allows_of_forall State.scans_keptBy modes) hu
  cases h with
  | filled hpass hq =>
    obtain ⟨mode, number, v, hdecides, rfl⟩ := decides_of_error hpass
    rw [hpass] at hpassed
    have hv : v.Scans grammar names := hpassed.of_same rfl rfl rfl rfl
    refine ⟨mode, number, _, v, mode.name, hdecides, hv, ?_, .inl ⟨rfl, rfl⟩⟩
    rw [State.report_eq, hv.grammar, hdecides.rule_eq hplain]
  | @stalled _ v hpass hq htext hidle =>
    obtain ⟨mode, number, hdecides⟩ := decides_of_idle hpass hq
    rw [hpass] at hpassed
    refine ⟨mode, number, _, v, v.modeName, hdecides, hpassed, ?_,
      .inr ⟨rfl, rfl, hidle, htext, hq, rfl⟩⟩
    rw [State.report_eq, hpassed.grammar, hdecides.rule_eq hplain]

/-- A request reports an error behind its last pass. -/
theorem exists_last_of_reports (hplain : Plain e.modes) {err : RuleError}
    (h : e.reports? = some err) :
    ∃ idle u t, Passes e.modes 0 e.state idle u ∧ LastPass e.modes idle u (some err) t ∧
      fill e.modes e.state = (.ok (some err), t) := by
  cases hstop : e.state.stop with
  | some stop => simp [reports?, hstop] at h
  | none =>
    simp only [reports?, hstop] at h
    cases hfill : fill e.modes e.state with
    | mk answer t =>
      rw [hfill] at h
      cases answer with
      | error f => cases h
      | ok e? =>
        obtain rfl : e? = some err := h
        unfold fill at hfill
        split at hfill
        · obtain ⟨idle, u, hpasses, hlast⟩ := fillAfter_last hplain 0 e.state hfill (by decide)
          exact ⟨idle, u, t, hpasses, hlast, rfl⟩
        · cases hfill

/-- The engine runs the grammar, in modes that exist. -/
def Runs (g : Grammar ε) (e : Engine ε) : Prop :=
  g.compile = .ok e.modes ∧ e.state.Scans g.name (e.modes.map (·.name))

variable {g : Grammar ε}

theorem runs_start {text : Text} {start : Engine ε} (h : Engine.start g text = .ok start) :
    Runs g start := ⟨(start_cases h).1, start_scans h⟩

theorem Runs.call (h : Runs g e) (c : Call ε) : Runs g (e.call c).2 := by
  cases c with
  | next =>
    obtain ⟨hmodes, hstate⟩ := nextToken_kept State.kept_scans
      (fun _ hs => hs.of_same rfl rfl rfl rfl) (fun _ hs => hs.of_same rfl rfl rfl rfl)
      (allows_of_forall State.scans_keptBy e.modes) h.2
    have hsame : (e.call .next).2 = e.nextToken.2 := rfl
    rw [hsame, Runs, hmodes]
    exact ⟨h.1, hstate⟩
  | operate op =>
    simp only [Engine.call]
    split
    · next s hop =>
      exact ⟨h.1, Operation.perform_kept State.kept_scans (fun _ hs => hs.of_same rfl rfl rfl rfl)
        hop h.2⟩
    · exact h

theorem Runs.calls (h : Runs g e) (cs : List (Call ε)) : Runs g (calls cs e).2 := by
  induction cs generalizing e with
  | nil => exact h
  | cons c cs ih => exact ih (h.call c)

/-- Whatever calls have been made, with plain rules an error that a request reports is reported
behind its last pass. That pass began in a mode `mode` and was ended by the rule of that mode with
the index `number`, and the token names the grammar, this index and a mode. Either the rule has
failed with the error, and its mode is named. Or the rule has fired, the pass was the last of too
many idle ones, and the mode that it has left is named. So the token names the mode of its rule if
the rule has failed or has stayed in its mode, and only then. -/
theorem diagnostics_name_rules (hg : g.Plain) {text : Text} {start : Engine ε}
    {answers : List Token} {err : RuleError} (hstart : Engine.start g text = .ok start)
    (markers : List Text)
    (cs : List (Call ε)) (hcalls : Engine.calls cs (start.addMarkers markers) = (answers, e))
    (herr : e.reports? = some err) :
    g.compile = .ok e.modes ∧ ∃ idle u mode number result v named,
      Passes e.modes 0 e.state idle u ∧ Decides e.modes u mode number result v ∧
      u.modeName = mode.name ∧ number < mode.rules.length ∧
      LastPass e.modes idle u (some err)
        (v.push ⟨some .stopError, err.diagnostic g.name named number⟩) ∧
      fill e.modes e.state
        = (.ok (some err), v.push ⟨some .stopError, err.diagnostic g.name named number⟩) ∧
      (result = .error (.error err) ∧ named = mode.name ∨
        result = .ok true ∧ err = .noProgress maxIdlePasses ∧ idle + 1 = maxIdlePasses ∧
          v.text = u.text ∧ v.queue.toList = [] ∧ named = v.modeName) ∧
      (named = mode.name ↔ result = .error (.error err) ∨ v.mode = u.mode) := by
  have hruns : Runs g e := by
    obtain ⟨hcompile, hstate⟩ := runs_start hstart
    have hmarked : Runs g (start.addMarkers markers) := ⟨hcompile, hstate.of_same rfl rfl rfl rfl⟩
    have hcalled := hmarked.calls cs
    rwa [hcalls] at hcalled
  obtain ⟨hcompile, hstate⟩ := hruns
  have hplain : Plain e.modes := hg.compile hcompile
  obtain ⟨idle, u, t, hpasses, hlast, hfill⟩ := exists_last_of_reports hplain herr
  have hu := hpasses.kept State.kept_scans (fun _ hs => hs.of_same rfl rfl rfl rfl)
    (allows_of_forall State.scans_keptBy e.modes) hstate
  obtain ⟨mode, number, result, v, named, hdecides, hv, rfl, hcases⟩ := hlast.reports hplain hu
  obtain ⟨hname, hnumber⟩ := hdecides.named hu
  refine ⟨hcompile, idle, u, mode, number, result, v, named, hpasses, hdecides, hname, hnumber,
    hlast, hfill, hcases, ?_⟩
  rcases hcases with ⟨hfailed, rfl⟩ | ⟨hfired, -, -, -, -, rfl⟩
  · exact ⟨fun _ => .inl hfailed, fun _ => rfl⟩
  · have hnot : result ≠ .error (.error err) := by simp [hfired]
    rw [← hname, hv.modeName_eq_iff (Grammar.nodup_of_compile hcompile) hu]
    simp [hnot]

/-- A rule that enters a mode before it fails. -/
def enteringGrammar : Grammar Unit where
  name := "g"
  modes? := some [
    ⟨"root", [.pattern "b" (.emit [.code]),
      .pattern "a" (.sequence [.enter "inner", .enter "nowhere"])]⟩,
    ⟨"inner", [.pattern "c" .exit]⟩]

theorem plain_enteringGrammar : enteringGrammar.Plain := by
  intro modes hmodes
  cases hmodes
  simp only [List.forall_mem_cons, List.not_mem_nil, false_implies, implies_true, and_true]
  refine ⟨⟨.emit _, .sequence ?_⟩, .exit⟩
  simp only [List.forall_mem_cons, List.not_mem_nil, false_implies, implies_true, and_true]
  exact ⟨.enter _, .enter _⟩

/-- The report names the mode in which the rule has been tried and not the one that it has
entered. -/
theorem diagnostics_name_rules_entering : ∃ start e u mode number v,
    Engine.start enteringGrammar "ba".toList = .ok start ∧
    calls [.next] (start.addMarkers []) = ([⟨some .code, ['b']⟩], e) ∧
    e.reports? = some (.unknownMode "g" "nowhere") ∧
    Decides e.modes u mode number (.error (.error (.unknownMode "g" "nowhere"))) v ∧
    number < mode.rules.length ∧
    fill e.modes e.state = (.ok (some (.unknownMode "g" "nowhere")), v.push ⟨some .stopError,
      (RuleError.unknownMode "g" "nowhere").diagnostic "g" mode.name number⟩) ∧
    (fill e.modes e.state).2.modeName = "inner" ∧
    (fill e.modes e.state).2.queue.toList = [⟨some .stopError,
      "grammar 'g' has no mode 'nowhere' (grammar='g', mode='root', rule=1)".toList⟩] := by
  obtain ⟨start, hstart, hanswers, herr, hmode, htext⟩ : ∃ start,
      Engine.start enteringGrammar "ba".toList = .ok start ∧
      let out := calls [.next] (start.addMarkers [])
      out.1 = [⟨some .code, ['b']⟩] ∧ out.2.reports? = some (.unknownMode "g" "nowhere") ∧
        (fill out.2.modes out.2.state).2.modeName = "inner" ∧
        (fill out.2.modes out.2.state).2.queue.toList = [⟨some .stopError,
          "grammar 'g' has no mode 'nowhere' (grammar='g', mode='root', rule=1)".toList⟩] := by
    decide +kernel
  obtain ⟨⟨answers, e⟩, hcalls⟩ : ∃ out, calls [.next] (start.addMarkers []) = out := ⟨_, rfl⟩
  rw [hcalls] at hanswers herr hmode htext
  obtain rfl : answers = _ := hanswers
  obtain ⟨-, idle, u, mode, number, result, v, named, -, hdecides, -, hnumber, -, hfill, hcases,
    -⟩ := diagnostics_name_rules plain_enteringGrammar hstart [] [.next] hcalls herr
  rcases hcases with ⟨rfl, rfl⟩ | ⟨-, hcause, -⟩
  · exact ⟨start, _, u, mode, number, v, hstart, hcalls, herr, hdecides, hnumber, hfill, hmode,
      htext⟩
  · cases hcause

/-- Two modes that lead into each other without taking text. -/
def alternatingGrammar : Grammar Unit where
  name := "g"
  modes? := some [⟨"root", [.pattern "" (.enter "inner")]⟩,
    ⟨"inner", [.pattern "x" (.emit [.code]), .pattern "" .exit]⟩]

/-- The last of too many idle passes tries the second rule of the mode "inner", which leads back to
"root". The report names the second rule of the mode "root", which has one rule. -/
theorem idle_passes_misname_mode :
    (alternatingGrammar.scan "y".toList [] 1).map Run.stop = .ok ⟨some .stopError,
      "no progress after 64 rule passes (grammar='g', mode='root', rule=1)".toList⟩ ∧
    ∀ modes, alternatingGrammar.modes? = some modes → ∀ mode ∈ modes,
      mode.name = "root" → mode.rules.length = 1 := by
  constructor
  · decide +kernel
  · rintro modes ⟨rfl⟩ mode hmode hname
    simp only [List.mem_cons, List.not_mem_nil, or_false] at hmode
    rcases hmode with rfl | rfl
    · rfl
    · exact absurd hname (by decide)

end Engine

end ModalLexer
