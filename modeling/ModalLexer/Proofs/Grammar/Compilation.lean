import ModalLexer.Engine.Basic

/-! # Compiled grammars

The modes of a compiled grammar are those of its definition, and every rule in them is a rule of the
definition with its pattern compiled.
-/

namespace ModalLexer

variable {ε : Type}

/-- A rule that compiles is a valid pattern with an action, or a procedure. -/
theorem Rule.compile_cases {r : Rule ε} {c : CompiledRule ε} (h : r.compile = .ok c) :
    (∃ source action p, r = .pattern source action ∧
      Pattern.compile (anchoredSource source.toList) = .ok p ∧ c = .pattern p action) ∨
    ∃ p, r = .procedure p ∧ c = .procedure p := by
  cases r with
  | pattern source action =>
    rw [compile] at h
    cases hp : Pattern.compile (anchoredSource source.toList) with
    | error e => rw [hp] at h; cases h
    | ok p => rw [hp] at h; cases h; exact .inl ⟨source, action, p, rfl, hp, rfl⟩
  | procedure p => cases h; exact .inr ⟨p, rfl, rfl⟩

namespace Grammar

theorem compileRules_cons {grammar mode : String} {index : Nat} {rule : Rule ε}
    {rules : List (Rule ε)} {compiled : List (CompiledRule ε)} {first : CompiledRule ε}
    (h : compileRules grammar mode index (rule :: rules) = .ok compiled)
    (hrule : rule.compile = .ok first) :
    ∃ more, compileRules grammar mode (index + 1) rules = .ok more ∧ compiled = first :: more := by
  rw [compileRules, hrule] at h
  cases hmore : compileRules grammar mode (index + 1) rules with
  | error e => rw [hmore] at h; cases h
  | ok more => rw [hmore] at h; cases h; exact ⟨more, rfl, rfl⟩

theorem compiles_of_compileRules {grammar mode : String} {index : Nat} {rules : List (Rule ε)}
    {compiled : List (CompiledRule ε)} (h : compileRules grammar mode index rules = .ok compiled) :
    ∀ rule ∈ rules, ∃ c, rule.compile = .ok c := by
  induction rules generalizing index compiled with
  | nil => exact fun _ hrule => absurd hrule List.not_mem_nil
  | cons rule rules ih =>
    cases hrule : rule.compile with
    | error cause => rw [compileRules, hrule] at h; cases h
    | ok first =>
      obtain ⟨more, hmore, -⟩ := compileRules_cons h hrule
      exact List.forall_mem_cons.2 ⟨⟨first, hrule⟩, ih hmore⟩

/-- A compiled rule is that of the definition at the same place. -/
theorem exists_of_getElem?_compileRules {grammar mode : String} {index : Nat}
    {rules : List (Rule ε)} {compiled : List (CompiledRule ε)}
    (h : compileRules grammar mode index rules = .ok compiled) {n : Nat} {c : CompiledRule ε}
    (hc : compiled[n]? = some c) : ∃ rule, rules[n]? = some rule ∧ rule.compile = .ok c := by
  induction rules generalizing index compiled n with
  | nil => cases h; cases hc
  | cons rule rules ih =>
    cases hrule : rule.compile with
    | error cause => rw [compileRules, hrule] at h; cases h
    | ok first =>
      obtain ⟨more, hmore, rfl⟩ := compileRules_cons h hrule
      cases n with
      | zero =>
        obtain rfl := Option.some.inj hc
        exact ⟨rule, rfl, hrule⟩
      | succ n => exact ih hmore hc

theorem exists_of_mem_compileRules {grammar mode : String} {index : Nat} {rules : List (Rule ε)}
    {compiled : List (CompiledRule ε)} (h : compileRules grammar mode index rules = .ok compiled)
    {c : CompiledRule ε} (hc : c ∈ compiled) : ∃ r ∈ rules, r.compile = .ok c := by
  obtain ⟨n, hn⟩ := List.mem_iff_getElem?.1 hc
  obtain ⟨r, hr, hrc⟩ := exists_of_getElem?_compileRules h hn
  exact ⟨r, List.mem_of_getElem? hr, hrc⟩

theorem compileModes_cons {grammar : String} {earlier : List String} {mode : Mode ε}
    {modes : List (Mode ε)} {compiled : List (CompiledMode ε)}
    (h : compileModes grammar earlier (mode :: modes) = .ok compiled) :
    mode.name ∉ earlier ∧ mode.rules ≠ [] ∧ ∃ rules more,
      compileRules grammar mode.name 0 mode.rules = .ok rules ∧
      compileModes grammar (earlier ++ [mode.name]) modes = .ok more ∧
      compiled = ⟨mode.name, rules⟩ :: more := by
  unfold compileModes at h
  by_cases hname : mode.name ∈ earlier
  · rw [if_pos hname] at h; cases h
  rw [if_neg hname] at h
  by_cases hempty : mode.rules.isEmpty = true
  · rw [if_pos hempty] at h; cases h
  rw [if_neg hempty] at h
  cases hrules : compileRules grammar mode.name 0 mode.rules with
  | error e => rw [hrules] at h; cases h
  | ok rules =>
    cases hmore : compileModes grammar (earlier ++ [mode.name]) modes with
    | error e => rw [hrules, hmore] at h; cases h
    | ok more =>
      rw [hrules, hmore] at h
      refine ⟨hname, ?_, rules, more, rfl, rfl, (Except.ok.inj h).symm⟩
      simpa using hempty

theorem exists_of_mem_compileModes {grammar : String} {earlier : List String}
    {modes : List (Mode ε)} {compiled : List (CompiledMode ε)}
    (h : compileModes grammar earlier modes = .ok compiled) {m : CompiledMode ε}
    (hm : m ∈ compiled) {c : CompiledRule ε} (hc : c ∈ m.rules) :
    ∃ mode ∈ modes, ∃ r ∈ mode.rules, r.compile = .ok c := by
  induction modes generalizing earlier compiled with
  | nil => cases h; cases hm
  | cons mode modes ih =>
    obtain ⟨-, -, rules, more, hrules, hmore, rfl⟩ := compileModes_cons h
    rcases List.mem_cons.1 hm with rfl | hm
    · obtain ⟨r, hr, hrc⟩ := exists_of_mem_compileRules hrules hc
      exact ⟨mode, List.mem_cons_self, r, hr, hrc⟩
    · obtain ⟨mode', hmode', hr⟩ := ih hmore hm
      exact ⟨mode', List.mem_cons_of_mem _ hmode', hr⟩

/-- Every rule of a compiled grammar is a rule of its definition. -/
theorem exists_of_mem_compile {g : Grammar ε} {compiled : List (CompiledMode ε)}
    (h : g.compile = .ok compiled) {m : CompiledMode ε} (hm : m ∈ compiled)
    {c : CompiledRule ε} (hc : c ∈ m.rules) :
    ∃ modes, g.modes? = some modes ∧ ∃ mode ∈ modes, ∃ r ∈ mode.rules, r.compile = .ok c := by
  unfold compile at h
  split at h
  · cases h
  · cases h
  · next modes _ hmodes => exact ⟨modes, hmodes, exists_of_mem_compileModes h hm hc⟩

/-- What the rules of a definition keep when they are compiled, those of its modes have. -/
theorem forall_compile {P : Rule ε → Prop} {Q : CompiledRule ε → Prop} {g : Grammar ε}
    {compiled : List (CompiledMode ε)} (hrule : ∀ r c, P r → r.compile = .ok c → Q c)
    (hg : ∀ modes, g.modes? = some modes → ∀ mode ∈ modes, ∀ r ∈ mode.rules, P r)
    (h : g.compile = .ok compiled) : ∀ mode ∈ compiled, ∀ c ∈ mode.rules, Q c := by
  intro mode hmode c hc
  obtain ⟨sources, hsources, source, hsource, r, hr, hrc⟩ := exists_of_mem_compile h hmode hc
  exact hrule r c (hg sources hsources source hsource r hr) hrc

theorem Plain.compile {g : Grammar ε} {compiled : List (CompiledMode ε)} (hg : g.Plain)
    (h : g.compile = .ok compiled) : Engine.Plain compiled := by
  refine forall_compile (fun r c hr hrc => ?_) hg h
  obtain ⟨source, action, p, rfl, -, rfl⟩ | ⟨p, rfl, rfl⟩ := Rule.compile_cases hrc
  · exact hr
  · exact hr

theorem exists_compileRules {grammar mode : String} {index : Nat} {rules : List (Rule ε)}
    (h : ∀ r ∈ rules, ∃ c, r.compile = .ok c) :
    ∃ compiled, compileRules grammar mode index rules = .ok compiled := by
  induction rules generalizing index with
  | nil => exact ⟨[], rfl⟩
  | cons rule rules ih =>
    obtain ⟨c, hc⟩ := h rule List.mem_cons_self
    obtain ⟨more, hmore⟩ : ∃ more, compileRules grammar mode (index + 1) rules = .ok more :=
      ih fun r hr => h r (List.mem_cons_of_mem _ hr)
    exact ⟨c :: more, by rw [compileRules, hc, hmore]; rfl⟩

theorem exists_compileModes {grammar : String} {earlier : List String} {modes : List (Mode ε)}
    (hnames : (earlier ++ modes.map (·.name)).Nodup)
    (h : ∀ mode ∈ modes, mode.rules ≠ [] ∧ ∀ r ∈ mode.rules, ∃ c, r.compile = .ok c) :
    ∃ compiled, compileModes grammar earlier modes = .ok compiled := by
  induction modes generalizing earlier with
  | nil => exact ⟨[], rfl⟩
  | cons mode modes ih =>
    obtain ⟨hne, hrules⟩ := h mode List.mem_cons_self
    obtain ⟨rules, hcompiled⟩ : ∃ rules, compileRules grammar mode.name 0 mode.rules = .ok rules :=
      exists_compileRules hrules
    rw [List.map_cons, List.append_cons] at hnames
    obtain ⟨more, hmore⟩ := ih hnames fun m hm => h m (List.mem_cons_of_mem _ hm)
    have hfresh : mode.name ∉ earlier := by
      intro hmem
      have hnodup := (List.nodup_append.1 hnames).1
      exact (List.nodup_append.1 hnodup).2.2 _ hmem _ (List.mem_singleton_self _) rfl
    have hfull : ¬ mode.rules.isEmpty = true := by simpa using hne
    refine ⟨⟨mode.name, rules⟩ :: more, ?_⟩
    rw [compileModes, if_neg hfresh, if_neg hfull, hcompiled, hmore]
    rfl

/-- A grammar is sound if it has modes, each with a name of its own and with rules that compile. -/
theorem exists_compile {g : Grammar ε} {modes : List (Mode ε)} (hmodes : g.modes? = some modes)
    (hne : modes ≠ []) (hnames : (modes.map (·.name)).Nodup)
    (h : ∀ mode ∈ modes, mode.rules ≠ [] ∧ ∀ r ∈ mode.rules, ∃ c, r.compile = .ok c) :
    ∃ compiled, g.compile = .ok compiled := by
  rw [compile, hmodes]
  cases modes with
  | nil => exact absurd rfl hne
  | cons mode modes => exact exists_compileModes (by simpa using hnames) h

/-- Compilation keeps the number of the modes, their order and their names. -/
theorem getElem?_of_compileModes {grammar : String} {earlier : List String}
    {modes : List (Mode ε)} {compiled : List (CompiledMode ε)}
    (h : compileModes grammar earlier modes = .ok compiled) :
    compiled.map (·.name) = modes.map (·.name) ∧
      ∀ (i : Nat) (mode : Mode ε), modes[i]? = some mode → ∃ rules,
        compileRules grammar mode.name 0 mode.rules = .ok rules ∧
        compiled[i]? = some ⟨mode.name, rules⟩ := by
  induction modes generalizing earlier compiled with
  | nil => cases h; simp
  | cons mode modes ih =>
    obtain ⟨-, -, rules, more, hrules, hmore, rfl⟩ := compileModes_cons h
    obtain ⟨hnames, hmodes⟩ := ih hmore
    refine ⟨by simp [hnames], ?_⟩
    intro i mode' hi
    cases i with
    | zero => cases hi; exact ⟨rules, hrules, rfl⟩
    | succ i => exact hmodes i mode' hi

theorem getElem?_of_compile {g : Grammar ε} {modes : List (Mode ε)}
    {compiled : List (CompiledMode ε)} (h : g.compile = .ok compiled)
    (hmodes : g.modes? = some modes) :
    compiled.map (·.name) = modes.map (·.name) ∧
      ∀ (i : Nat) (mode : Mode ε), modes[i]? = some mode → ∃ rules,
        compileRules g.name mode.name 0 mode.rules = .ok rules ∧
        compiled[i]? = some ⟨mode.name, rules⟩ := by
  rw [compile, hmodes] at h
  cases modes with
  | nil => cases h
  | cons mode modes => exact getElem?_of_compileModes h

theorem nodup_of_compileModes {grammar : String} {earlier : List String} {modes : List (Mode ε)}
    {compiled : List (CompiledMode ε)} (h : compileModes grammar earlier modes = .ok compiled) :
    (∀ m ∈ compiled, m.name ∉ earlier) ∧ (compiled.map (·.name)).Nodup := by
  induction modes generalizing earlier compiled with
  | nil => cases h; simp
  | cons mode modes ih =>
    obtain ⟨hfresh, -, rules, more, -, hmore, rfl⟩ := compileModes_cons h
    obtain ⟨hnew, hnodup⟩ := ih hmore
    have hlater : ∀ m ∈ more, m.name ∉ earlier ∧ m.name ≠ mode.name := by
      intro m hm
      simpa using hnew m hm
    refine ⟨List.forall_mem_cons.2 ⟨hfresh, fun m hm => (hlater m hm).1⟩, ?_⟩
    rw [List.map_cons, List.nodup_cons]
    refine ⟨?_, hnodup⟩
    intro hmem
    obtain ⟨m, hm, hname⟩ := List.mem_map.1 hmem
    exact (hlater m hm).2 hname

/-- The modes of a compiled grammar have different names. -/
theorem nodup_of_compile {g : Grammar ε} {compiled : List (CompiledMode ε)}
    (h : g.compile = .ok compiled) : (compiled.map (·.name)).Nodup := by
  unfold compile at h
  split at h
  · cases h
  · cases h
  · exact (nodup_of_compileModes h).2

theorem ne_nil_of_compile {g : Grammar ε} {compiled : List (CompiledMode ε)}
    (h : g.compile = .ok compiled) : compiled ≠ [] := by
  unfold compile at h
  split at h
  · cases h
  · cases h
  · next modes hne _ =>
    obtain ⟨mode, modes, rfl⟩ := List.exists_cons_of_ne_nil hne
    obtain ⟨-, -, _, _, -, -, rfl⟩ := compileModes_cons h
    exact List.cons_ne_nil _ _

end Grammar

/-- A new engine is at the beginning of its text, with nothing queued and no stop. -/
theorem Engine.start_cases {g : Grammar ε} {text : Text} {e : Engine ε}
    (h : Engine.start g text = .ok e) :
    g.compile = .ok e.modes ∧
      e.state = { grammar := g.name, modeNames := e.modes.map (·.name), text } := by
  unfold Engine.start at h
  cases hg : g.compile with
  | error e => rw [hg] at h; cases h
  | ok modes => rw [hg] at h; cases h; exact ⟨rfl, rfl⟩

end ModalLexer
