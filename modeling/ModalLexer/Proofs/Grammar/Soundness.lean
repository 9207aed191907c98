import ModalLexer.Proofs.Grammar.Compilation

/-! # Sound grammars and the first defect

A grammar is sound if it has modes, each with rules and a name of its own, and every pattern is
valid. A grammar that is not sound is refused for the first defect that is met: the modes are gone
through in order, and each is checked for a repeated name, then for its rules, and then rule by
rule for a pattern that is not valid.
-/

namespace ModalLexer

variable {ε : Type}

namespace Grammar

structure SoundModes (modes : List (Mode ε)) : Prop where
  ne_nil : modes ≠ []
  nodup : (modes.map (·.name)).Nodup
  rules : ∀ mode ∈ modes, mode.rules ≠ [] ∧ ∀ rule ∈ mode.rules, ∃ c, rule.compile = .ok c

def Sound (g : Grammar ε) : Prop := ∃ modes, g.modes? = some modes ∧ SoundModes modes

/-- A defect of the mode at the position `i`, found by the given one of its checks. -/
inductive Defect (grammar : String) (modes : List (Mode ε)) (i : Nat) : Nat → GrammarError → Prop
  | repeated {mode : Mode ε} (hmode : modes[i]? = some mode)
    (hname : ∃ earlier ∈ modes.take i, earlier.name = mode.name) :
    Defect grammar modes i 0 (.duplicateMode grammar mode.name)
  | empty {mode : Mode ε} (hmode : modes[i]? = some mode) (hrules : mode.rules = []) :
    Defect grammar modes i 1 (.emptyMode grammar mode.name)
  | invalid {mode : Mode ε} {rule : Rule ε} {number : Nat} {cause : Pattern.PatternError}
    (hmode : modes[i]? = some mode) (hrule : mode.rules[number]? = some rule)
    (hcause : rule.compile = .error cause) :
    Defect grammar modes i (number + 2) (.invalidPattern grammar mode.name number cause)

/-- The defect is met before any other one of the modes from the position `start` on. -/
def FirstDefect (grammar : String) (modes : List (Mode ε)) (start : Nat) (e : GrammarError) :
    Prop :=
  ∃ i check, start ≤ i ∧ Defect grammar modes i check e ∧
    ∀ j check' e', start ≤ j → Defect grammar modes j check' e' → i < j ∨ i = j ∧ check ≤ check'

variable {grammar mode : String} {index i check : Nat} {rules : List (Rule ε)}
  {modes front rest : List (Mode ε)} {e e' : GrammarError}

/-- The first rule with an invalid pattern is reported. -/
theorem first_of_compileRules (h : compileRules grammar mode index rules = .error e) :
    ∃ number rule cause, rules[number]? = some rule ∧ rule.compile = .error cause ∧
      e = .invalidPattern grammar mode (index + number) cause ∧
      ∀ n r c, rules[n]? = some r → r.compile = .error c → number ≤ n := by
  induction rules generalizing index with
  | nil => cases h
  | cons rule rules ih =>
    cases hrule : rule.compile with
    | error cause =>
      rw [compileRules, hrule] at h
      cases h
      exact ⟨0, rule, cause, rfl, hrule, rfl, fun n _ _ _ _ => Nat.zero_le n⟩
    | ok first =>
      have hmore : compileRules grammar mode (index + 1) rules = .error e := by
        rw [compileRules, hrule] at h
        cases hrest : compileRules grammar mode (index + 1) rules with
        | error e' => rw [hrest] at h; exact congrArg Except.error (Except.error.inj h)
        | ok more => rw [hrest] at h; cases h
      obtain ⟨number, rule', cause, hget, hcause, rfl, hleast⟩ := ih hmore
      refine ⟨number + 1, rule', cause, hget, hcause, ?_, ?_⟩
      · rw [Nat.add_right_comm, Nat.add_assoc]
      · intro n r c hr hc
        cases n with
        | zero =>
          obtain rfl : rule = r := Option.some.inj hr
          rw [hrule] at hc
          cases hc
        | succ n => exact Nat.succ_le_succ (hleast n r c hr hc)

/-- The defects of a mode at its place among the others. -/
theorem defect_length_iff {m : Mode ε} : Defect grammar (front ++ m :: rest) front.length check e ↔
    (check = 0 ∧ m.name ∈ front.map (·.name) ∧ e = .duplicateMode grammar m.name) ∨
    (check = 1 ∧ m.rules = [] ∧ e = .emptyMode grammar m.name) ∨
    ∃ number rule cause, check = number + 2 ∧ m.rules[number]? = some rule ∧
      rule.compile = .error cause ∧ e = .invalidPattern grammar m.name number cause := by
  have hget : (front ++ m :: rest)[front.length]? = some m := by simp
  have htake : (front ++ m :: rest).take front.length = front := by simp
  constructor
  · intro h
    cases h with
    | repeated hmode hname =>
      obtain rfl := Option.some.inj (hget.symm.trans hmode)
      rw [htake] at hname
      exact .inl ⟨rfl, List.mem_map.2 hname, rfl⟩
    | empty hmode hrules =>
      obtain rfl := Option.some.inj (hget.symm.trans hmode)
      exact .inr (.inl ⟨rfl, hrules, rfl⟩)
    | invalid hmode hrule hcause =>
      obtain rfl := Option.some.inj (hget.symm.trans hmode)
      exact .inr (.inr ⟨_, _, _, rfl, hrule, hcause, rfl⟩)
  · rintro (⟨rfl, hname, rfl⟩ | ⟨rfl, hrules, rfl⟩ | ⟨number, rule, cause, rfl, hrule, hcause, rfl⟩)
    · exact .repeated hget (by rw [htake]; exact List.mem_map.1 hname)
    · exact .empty hget hrules
    · exact .invalid hget hrule hcause

theorem Defect.lt_length (h : Defect grammar modes i check e) : i < modes.length := by
  cases h with
  | repeated hmode | empty hmode | invalid hmode => exact (List.getElem?_eq_some_iff.1 hmode).1

/-- A check finds one defect at most. -/
theorem Defect.unique (h : Defect grammar modes i check e) (h' : Defect grammar modes i check e') :
    e = e' := by
  cases h with
  | repeated hmode =>
    cases h' with
    | repeated hmode' =>
      obtain rfl := Option.some.inj (hmode.symm.trans hmode')
      rfl
  | empty hmode =>
    cases h' with
    | empty hmode' =>
      obtain rfl := Option.some.inj (hmode.symm.trans hmode')
      rfl
  | invalid hmode hrule hcause =>
    cases h' with
    | invalid hmode' hrule' hcause' =>
      obtain rfl := Option.some.inj (hmode.symm.trans hmode')
      obtain rfl := Option.some.inj (hrule.symm.trans hrule')
      rw [hcause] at hcause'
      rw [Except.error.inj hcause']

theorem FirstDefect.unique {start : Nat} (h : FirstDefect grammar modes start e)
    (h' : FirstDefect grammar modes start e') : e = e' := by
  obtain ⟨i, check, hi, hdefect, hfirst⟩ := h
  obtain ⟨j, check', hj, hdefect', hfirst'⟩ := h'
  have hle := hfirst j check' e' hj hdefect'
  have hge := hfirst' i check e hi hdefect
  obtain rfl : i = j := by omega
  obtain rfl : check = check' := by omega
  exact hdefect.unique hdefect'

theorem FirstDefect.ne_nil {start : Nat} (h : FirstDefect grammar modes start e) : modes ≠ [] := by
  obtain ⟨i, check, -, hdefect, -⟩ := h
  exact List.ne_nil_of_length_pos (Nat.zero_lt_of_lt hdefect.lt_length)

theorem not_defect_length {m : Mode ε} (hname : m.name ∉ front.map (·.name)) (hne : m.rules ≠ [])
    (hrules : ∀ rule ∈ m.rules, ∃ c, rule.compile = .ok c) :
    ¬ Defect grammar (front ++ m :: rest) front.length check e := by
  rw [defect_length_iff]
  rintro (⟨-, hmem, -⟩ | ⟨-, hnil, -⟩ | ⟨number, rule, cause, -, hrule, hcause, -⟩)
  · exact hname hmem
  · exact hne hnil
  · obtain ⟨c, hc⟩ := hrules rule (List.mem_of_getElem? hrule)
    rw [hcause] at hc
    cases hc

/-- Where modes compile there is no defect from them on. -/
theorem not_defect_of_compileModes (front : List (Mode ε)) {compiled : List (CompiledMode ε)}
    (h : compileModes grammar (front.map (·.name)) rest = .ok compiled) {j : Nat}
    (hj : front.length ≤ j) : ¬ Defect grammar (front ++ rest) j check e := by
  induction rest generalizing front compiled with
  | nil =>
    intro hdefect
    have hlt := hdefect.lt_length
    rw [List.append_nil] at hlt
    omega
  | cons m rest ih =>
    obtain ⟨hname, hne, rules, more, hrules, hmore, rfl⟩ := compileModes_cons h
    rcases Nat.eq_or_lt_of_le hj with rfl | hlt
    · exact not_defect_length hname hne (compiles_of_compileRules hrules)
    · rw [List.append_cons]
      have hmore' : compileModes grammar ((front ++ [m]).map (·.name)) rest = .ok more := by
        rw [List.map_append]
        exact hmore
      exact ih (front ++ [m]) hmore' (by simpa using Nat.succ_le_of_lt hlt)

/-- A defect of the first mode comes before those of the modes behind it. -/
theorem firstDefect_length {m : Mode ε}
    (hdefect : Defect grammar (front ++ m :: rest) front.length check e)
    (hleast : ∀ check' e', Defect grammar (front ++ m :: rest) front.length check' e' →
      check ≤ check') : FirstDefect grammar (front ++ m :: rest) front.length e := by
  refine ⟨front.length, check, Nat.le_refl _, hdefect, fun j check' e' hj hdefect' => ?_⟩
  rcases Nat.eq_or_lt_of_le hj with rfl | hlt
  · exact .inr ⟨rfl, hleast check' e' hdefect'⟩
  · exact .inl hlt

theorem FirstDefect.of_succ {m : Mode ε} (hname : m.name ∉ front.map (·.name)) (hne : m.rules ≠ [])
    (hrules : ∀ rule ∈ m.rules, ∃ c, rule.compile = .ok c)
    (h : FirstDefect grammar (front ++ m :: rest) (front.length + 1) e) :
    FirstDefect grammar (front ++ m :: rest) front.length e := by
  obtain ⟨i, check, hi, hdefect, hfirst⟩ := h
  refine ⟨i, check, by omega, hdefect, fun j check' e' hj hdefect' => ?_⟩
  rcases Nat.eq_or_lt_of_le hj with rfl | hlt
  · exact absurd hdefect' (not_defect_length hname hne hrules)
  · exact hfirst j check' e' hlt hdefect'

/-- Where modes do not compile, the first defect from them on is reported. -/
theorem firstDefect_of_compileModes (front : List (Mode ε))
    (h : compileModes grammar (front.map (·.name)) rest = .error e) :
    FirstDefect grammar (front ++ rest) front.length e := by
  -- The modes in front have no defects. The branches are the checks of the next one.
  induction rest generalizing front with
  | nil => cases h
  | cons m rest ih =>
    rw [compileModes] at h
    by_cases hname : m.name ∈ front.map (·.name)
    · rw [if_pos hname] at h
      obtain rfl : GrammarError.duplicateMode grammar m.name = e := Except.error.inj h
      exact firstDefect_length (defect_length_iff.2 (.inl ⟨rfl, hname, rfl⟩))
        fun _ _ _ => Nat.zero_le _
    rw [if_neg hname] at h
    by_cases hempty : m.rules = []
    · rw [if_pos (List.isEmpty_iff.2 hempty)] at h
      obtain rfl : GrammarError.emptyMode grammar m.name = e := Except.error.inj h
      refine firstDefect_length (defect_length_iff.2 (.inr (.inl ⟨rfl, hempty, rfl⟩))) ?_
      intro check' e' h'
      rcases defect_length_iff.1 h' with ⟨-, hmem, -⟩ | ⟨rfl, -⟩ | ⟨number, _, _, rfl, -⟩
      · exact absurd hmem hname
      · exact Nat.le_refl 1
      · exact Nat.le_add_left 1 (number + 1)
    rw [if_neg (mt List.isEmpty_iff.1 hempty)] at h
    cases hrules : compileRules grammar m.name 0 m.rules with
    | error e' =>
      rw [hrules] at h
      obtain rfl : e' = e := Except.error.inj h
      obtain ⟨number, rule, cause, hrule, hcause, rfl, hleast⟩ := first_of_compileRules hrules
      rw [Nat.zero_add]
      refine firstDefect_length
        (defect_length_iff.2 (.inr (.inr ⟨number, rule, cause, rfl, hrule, hcause, rfl⟩))) ?_
      intro check' e' h'
      rcases defect_length_iff.1 h' with ⟨-, hmem, -⟩ | ⟨-, hnil, -⟩ | ⟨n, r, c, rfl, hr, hc, -⟩
      · exact absurd hmem hname
      · exact absurd hnil hempty
      · exact Nat.add_le_add_right (hleast n r c hr hc) 2
    | ok rules =>
      rw [hrules] at h
      have hmore : compileModes grammar ((front ++ [m]).map (·.name)) rest = .error e := by
        rw [List.map_append]
        cases hrest : compileModes grammar (front.map (·.name) ++ [m.name]) rest with
        | error e' => rw [hrest] at h; exact hrest.trans (congrArg _ (Except.error.inj h))
        | ok more => rw [hrest] at h; cases h
      have hlater := ih (front ++ [m]) hmore
      rw [List.append_assoc, List.length_append] at hlater
      exact hlater.of_succ hname hempty (compiles_of_compileRules hrules)

variable {g : Grammar ε}

theorem compile_eq {modes : List (Mode ε)} (hmodes : g.modes? = some modes) (hne : modes ≠ []) :
    g.compile = compileModes g.name [] modes := by
  rw [compile, hmodes]
  cases modes with
  | nil => exact absurd rfl hne
  | cons m modes => rfl

theorem not_defect_of_compile {modes : List (Mode ε)} {compiled : List (CompiledMode ε)}
    (h : g.compile = .ok compiled) (hmodes : g.modes? = some modes) :
    modes ≠ [] ∧ ∀ i check e, ¬ Defect g.name modes i check e := by
  have hne : modes ≠ [] := by
    rintro rfl
    rw [compile, hmodes] at h
    cases h
  rw [compile_eq hmodes hne] at h
  exact ⟨hne, fun i _ _ => not_defect_of_compileModes [] h (Nat.zero_le i)⟩

/-- A grammar compiles exactly if it is sound. -/
theorem exists_compile_iff : (∃ compiled, g.compile = .ok compiled) ↔ g.Sound := by
  constructor
  · rintro ⟨compiled, h⟩
    obtain ⟨modes, hmodes⟩ : ∃ modes, g.modes? = some modes := by
      cases hmodes : g.modes? with
      | none => rw [compile, hmodes] at h; cases h
      | some modes => exact ⟨modes, rfl⟩
    obtain ⟨hne, hdefect⟩ := not_defect_of_compile h hmodes
    refine ⟨modes, hmodes, hne, (getElem?_of_compile h hmodes).1 ▸ nodup_of_compile h, ?_⟩
    intro mode hmode
    obtain ⟨i, hi⟩ := List.mem_iff_getElem?.1 hmode
    refine ⟨fun hnil => hdefect i 1 _ (.empty hi hnil), fun rule hrule => ?_⟩
    obtain ⟨number, hnumber⟩ := List.mem_iff_getElem?.1 hrule
    cases hcompile : rule.compile with
    | ok c => exact ⟨c, rfl⟩
    | error cause => exact absurd (.invalid hi hnumber hcompile) (hdefect i (number + 2) _)
  · rintro ⟨modes, hmodes, hsound⟩
    exact exists_compile hmodes hsound.ne_nil hsound.nodup hsound.rules

/-- What a grammar that is not sound is refused for. -/
inductive Fails (g : Grammar ε) : GrammarError → Prop
  | undefined (h : g.modes? = none) : Fails g (.undefined g.name)
  | noModes (h : g.modes? = some []) : Fails g (.noModes g.name)
  | defect {modes : List (Mode ε)} {e : GrammarError} (h : g.modes? = some modes)
    (hfirst : FirstDefect g.name modes 0 e) : Fails g e

theorem fails_of_compile (h : g.compile = .error e) : g.Fails e := by
  cases hmodes : g.modes? with
  | none =>
    rw [compile, hmodes] at h
    obtain rfl : GrammarError.undefined g.name = e := Except.error.inj h
    exact .undefined hmodes
  | some modes =>
    by_cases hne : modes = []
    · subst hne
      rw [compile, hmodes] at h
      obtain rfl : GrammarError.noModes g.name = e := Except.error.inj h
      exact .noModes hmodes
    · rw [compile_eq hmodes hne] at h
      exact .defect hmodes (firstDefect_of_compileModes [] h)

/-- A grammar is refused exactly for what is wrong with it, which is the first defect if it has
modes. -/
theorem compile_eq_error_iff : g.compile = .error e ↔ g.Fails e := by
  refine ⟨fails_of_compile, fun h => ?_⟩
  cases h with
  | undefined hmodes => rw [compile, hmodes]
  | noModes hmodes => rw [compile, hmodes]
  | @defect modes _ hmodes hfirst =>
    cases hcompile : g.compile with
    | ok compiled =>
      obtain ⟨i, check, -, hdefect, -⟩ := hfirst
      exact absurd hdefect ((not_defect_of_compile hcompile hmodes).2 i check e)
    | error e' =>
      rw [compile_eq hmodes hfirst.ne_nil] at hcompile
      rw [(firstDefect_of_compileModes [] hcompile).unique hfirst]

/-- The second mode has an invalid pattern. The third one has its name twice and has no rules, but
is not met. -/
example : (⟨"g", some [⟨"root", [.pattern "a" .exit]⟩,
    ⟨"inner", [.pattern "b" .exit, .pattern "(" .exit]⟩, ⟨"root", []⟩]⟩ : Grammar Unit).compile
      = .error (.invalidPattern "g" "inner" 1 .unclosedGroup) := by
  rfl

end Grammar

end ModalLexer
