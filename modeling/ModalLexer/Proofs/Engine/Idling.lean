import ModalLexer.Proofs.Engine.Passes

/-! # Every request ends

A request makes passes until the queue holds a token. A pass that takes text pays for itself and for
the idle passes in front of it, and too many idle passes in a row end the request with an error. So
whatever plain rules do, if each of them returns, the request returns a token that was queued. A
rule that requests tokens itself may make passes idle that have queued a token.
-/

namespace ModalLexer.Engine

variable {ε : Type} {modes : List (CompiledMode ε)} {idle k m n : Nat} {s s' t : State ε}
  {answer : Except Fault (Option RuleError)} {e? : Option RuleError} {f : Fault}

/-- The state after a number of passes. -/
def afterPasses (modes : List (CompiledMode ε)) : Nat → State ε → State ε
  | 0, s => s
  | n + 1, s => afterPasses modes n (pass modes s).2

theorem afterPasses_succ :
    afterPasses modes (n + 1) s = (pass modes (afterPasses modes n s)).2 := by
  induction n generalizing s with
  | zero => rfl
  | succ n ih => exact ih

theorem afterPasses_scans {grammar : String} (hs : s.Scans grammar (modes.map (·.name))) :
    (afterPasses modes n s).Scans grammar (modes.map (·.name)) := by
  induction n generalizing s with
  | zero => exact hs
  | succ n ih =>
    exact ih (pass_kept State.kept_scans (fun _ hs => hs.of_same rfl rfl rfl rfl)
      (allows_of_forall State.scans_keptBy modes) hs)

/-- The pass over the state takes no text and leaves the queue empty. -/
def Idle (modes : List (CompiledMode ε)) (s : State ε) : Prop :=
  (pass modes s).2.text = s.text ∧ (pass modes s).2.queue.toList = []

instance : Decidable (Idle modes s) := inferInstanceAs (Decidable (_ ∧ _))

/-- The number of idle passes in a row after a number of passes, with `idle` of them in front of the
first one. -/
def idleRun (modes : List (CompiledMode ε)) (idle : Nat) (s : State ε) : Nat → Nat
  | 0 => idle
  | n + 1 => idleRun modes (if Idle modes s then idle + 1 else 0) (pass modes s).2 n

theorem idleRun_succ : idleRun modes idle s (n + 1) =
    if Idle modes (afterPasses modes n s) then idleRun modes idle s n + 1 else 0 := by
  induction n generalizing idle s with
  | zero => rfl
  | succ n ih => exact ih

theorem le_idleRun_iff : k ≤ idleRun modes 0 s n ↔
    ∃ m, m + k = n ∧ ∀ i < k, Idle modes (afterPasses modes (m + i) s) := by
  induction n generalizing k with
  | zero =>
    constructor
    · intro hk
      obtain rfl := Nat.le_zero.1 hk
      exact ⟨0, rfl, fun i hi => absurd hi (Nat.not_lt_zero i)⟩
    · rintro ⟨m, hm, -⟩
      exact Nat.le_trans (Nat.le_add_left k m) (Nat.le_of_eq hm)
  | succ n ih =>
    cases k with
    | zero =>
      refine iff_of_true (Nat.zero_le _) ⟨n + 1, rfl, ?_⟩
      exact fun i hi => absurd hi (Nat.not_lt_zero i)
    | succ k =>
      rw [idleRun_succ]
      constructor
      · intro hk
        split at hk
        · next hidle =>
          obtain ⟨m, rfl, hall⟩ := ih.1 (Nat.le_of_succ_le_succ hk)
          refine ⟨m, rfl, fun i hi => ?_⟩
          rcases Nat.lt_or_eq_of_le (Nat.le_of_lt_succ hi) with hlt | rfl
          · exact hall i hlt
          · exact hidle
        · exact absurd hk (Nat.not_succ_le_zero k)
      · rintro ⟨m, hm, hall⟩
        obtain rfl : m + k = n := Nat.succ.inj hm
        rw [if_pos (hall k (Nat.lt_succ_self k))]
        exact Nat.succ_le_succ (ih.2 ⟨m, rfl, fun i hi => hall i (Nat.lt_succ_of_lt hi)⟩)

theorem idleAfter_eq (hplain : Plain modes) (hpass : (pass modes s).2 = s')
    (hq : s'.queue.toList = []) :
    idleAfter idle s s' = if Idle modes s then idle + 1 else 0 := by
  have hsuffix : s'.text <:+ s.text := hpass ▸ pass_suffix hplain s
  by_cases htext : s'.text = s.text
  · rw [if_pos (show Idle modes s from ⟨hpass ▸ htext, hpass ▸ hq⟩), idleAfter, htext,
      if_neg (not_not_intro rfl)]
  · have hmoved : s'.text.byteSize ≠ s.text.byteSize :=
      fun hsize => htext (Text.eq_of_suffix_of_byteSize hsuffix hsize)
    rw [if_neg fun h => htext (hpass ▸ h.1), idleAfter, if_pos hmoved]

/-- How the passes end with which a queue is filled. From `s` on there are `n` of them. -/
inductive FillEnds (modes : List (CompiledMode ε)) (idle : Nat) (s : State ε) (n : Nat) :
    Except Fault (Option RuleError) → State ε → Prop
  | filled {e? : Option RuleError} (hq : (afterPasses modes n s).queue.toList ≠ []) :
    FillEnds modes idle s n (.ok e?) (afterPasses modes n s)
  | stalled (hq : (afterPasses modes n s).queue.toList = [])
    (hidle : idleRun modes idle s n = maxIdlePasses) :
    FillEnds modes idle s n (.ok (some (.noProgress maxIdlePasses)))
      ((afterPasses modes n s).fail (.noProgress maxIdlePasses) (afterPasses modes n s).modeName)
  | abandoned {k : Nat} {f : Fault} {t : State ε} (hk : k + 1 = n)
    (hpass : pass modes (afterPasses modes k s) = (.error f, t)) :
    FillEnds modes idle s n (.error f) t

theorem FillEnds.cons (h : FillEnds modes (if Idle modes s then idle + 1 else 0) (pass modes s).2 n
    answer t) : FillEnds modes idle s (n + 1) answer t := by
  cases h with
  | filled hq => exact .filled hq
  | stalled hq hidle => exact .stalled hq hidle
  | abandoned hk hpass => exact .abandoned (congrArg Nat.succ hk) hpass

theorem text_ne_nil_of_pass (hpass : (pass modes s).2 = s') (hq : s'.queue.toList = []) :
    s.text ≠ [] := by
  intro htext
  rw [pass, if_pos (by simpa using htext)] at hpass
  subst hpass
  simp [State.push] at hq

/-- A pass that is not idle has paid with text for itself and the idle ones in front of it. -/
theorem idleAfter_paid (hplain : Plain modes) (hpass : (pass modes s).2 = s')
    (hq : s'.queue.toList = []) (hidle : idle < maxIdlePasses) :
    idle + 1 + maxIdlePasses * s'.text.byteSize ≤
      idleAfter idle s s' + maxIdlePasses * s.text.byteSize := by
  rw [idleAfter_eq hplain hpass hq]
  split
  · next h => exact Nat.le_of_eq (by rw [← hpass, h.1])
  · next h =>
    obtain ⟨taken, htaken⟩ := hpass ▸ pass_suffix hplain s
    have hne : taken ≠ [] := by
      rintro rfl
      exact h ⟨hpass ▸ htaken, hpass ▸ hq⟩
    have hpos := Text.byteSize_pos hne
    rw [← htaken, Text.byteSize_append]
    simp only [maxIdlePasses] at hidle ⊢
    omega

/-- The loop makes `n` passes from `s` on. There is text for all of them, and in front of each one
the queue is empty and there are not too many idle passes in a row. -/
structure Bounded (modes : List (CompiledMode ε)) (idle : Nat) (s : State ε) (n : Nat) : Prop where
  count : n + idle ≤ maxIdlePasses * s.text.byteSize + 1
  empty : ∀ k < n, (afterPasses modes k s).queue.toList = []
  few : ∀ k < n, idleRun modes idle s k < maxIdlePasses

theorem bounded_one (hq : s.queue.toList = []) (hidle : idle < maxIdlePasses)
    (htext : idle = 0 ∨ s.text ≠ []) : Bounded modes idle s 1 := by
  refine ⟨?_, fun k hk => ?_, fun k hk => ?_⟩
  · rcases htext with rfl | hne
    · exact Nat.le_add_left 1 _
    · have hpos := Text.byteSize_pos hne
      simp only [maxIdlePasses] at hidle ⊢
      omega
  · obtain rfl := Nat.lt_one_iff.1 hk
    exact hq
  · obtain rfl := Nat.lt_one_iff.1 hk
    exact hidle

theorem Bounded.cons (hplain : Plain modes) (h : Bounded modes (idleAfter idle s s') s' n)
    (hq : s.queue.toList = []) (hidle : idle < maxIdlePasses) (hpass : (pass modes s).2 = s')
    (hq' : s'.queue.toList = []) :
    Bounded modes idle s (n + 1) := by
  have hpaid := idleAfter_paid hplain hpass hq' hidle
  refine ⟨by have := h.count; omega, fun k hk => ?_, fun k hk => ?_⟩
  · cases k with
    | zero => exact hq
    | succ k =>
      rw [afterPasses, hpass]
      exact h.empty k (Nat.lt_of_succ_lt_succ hk)
  · cases k with
    | zero => exact hidle
    | succ k =>
      rw [idleRun, ← idleAfter_eq hplain hpass hq', hpass]
      exact h.few k (Nat.lt_of_succ_lt_succ hk)

/-- The induction is on the passes that follow. A pass behind an idle one finds text, since at the
end of the text a stop is queued. -/
theorem countedFill_ends (hplain : Plain modes) (hq : s.queue.toList = [])
    (hidle : idle < maxIdlePasses) (htext : idle = 0 ∨ s.text ≠ []) :
    ∃ n answer t, countedFill modes idle s = (n, answer, t) ∧ Bounded modes idle s n ∧
      FillEnds modes idle s n answer t := by
  induction idle, s using passes_induction modes with
  | step idle s ih =>
    have hone : Bounded modes idle s 1 := bounded_one hq hidle htext
    rw [countedFill_eq]
    cases hpass : pass modes s with
    | mk answer s' =>
      have hafter : (pass modes s).2 = s' := by rw [hpass]
      cases answer with
      | error f => exact ⟨1, _, _, rfl, hone, .abandoned (k := 0) rfl hpass⟩
      | ok e? =>
        simp only
        by_cases hfull : s'.queue.isEmpty = false
        · rw [if_pos hfull]
          refine ⟨1, _, _, rfl, hone, ?_⟩
          rw [← Bool.not_eq_true, Queue.isEmpty_iff, ← hafter] at hfull
          rw [← hafter]
          exact .filled (n := 1) hfull
        rw [if_neg hfull]
        have hempty : s'.queue.isEmpty = true := by simpa using hfull
        have hq' := Queue.isEmpty_iff.1 hempty
        have hnext : idleAfter idle s s' = if Idle modes s then idle + 1 else 0 :=
          idleAfter_eq hplain hafter hq'
        by_cases hmore : idleAfter idle s s' < maxIdlePasses
        · rw [if_pos hmore]
          have htext' : idleAfter idle s s' = 0 ∨ s'.text ≠ [] := by
            rw [hnext]
            split
            · next h => exact .inr (hafter ▸ h.1 ▸ text_ne_nil_of_pass hafter hq')
            · exact .inl rfl
          obtain ⟨n, answer, t, hcount, hbounded, hends⟩ :=
            ih e? s' hpass hempty hmore hq' hmore htext'
          rw [hcount]
          refine ⟨n + 1, answer, t, rfl, hbounded.cons hplain hq hidle hafter hq', ?_⟩
          rw [hnext, ← hafter] at hends
          exact hends.cons
        · rw [if_neg hmore]
          have hlast : Idle modes s ∧ idle + 1 = maxIdlePasses := by
            rw [hnext] at hmore
            split at hmore
            · next h => exact ⟨h, by omega⟩
            · exact absurd (by decide) hmore
          rw [hlast.2]
          refine ⟨1, _, _, rfl, hone, ?_⟩
          rw [← hafter] at hq' ⊢
          exact .stalled (n := 1) hq' (by rw [idleRun, idleRun, if_pos hlast.1, hlast.2])

/-- One of the rules that the passes of the next request try is abandoned. -/
def Abandons (e : Engine ε) (f : Fault) : Prop :=
  ∃ k rule number t t', k < e.requestPasses ∧
    RuleTurn e.modes (afterPasses e.modes k e.state) rule number t ∧
    rule.exec { t with rule := number } = (.error (.fault f), t')

/-- As many passes of the next request as are too many are idle, one behind the other. -/
def Spins (e : Engine ε) : Prop :=
  ∃ k, k + maxIdlePasses ≤ e.requestPasses ∧
    ∀ i < maxIdlePasses, Idle e.modes (afterPasses e.modes (k + i) e.state)

/-- The passes of the next request end in the state `t`, in which the last of them has queued a
token, or the guard behind it an error. The guard does so exactly if the passes spin. -/
def FillsWith (e : Engine ε) (e? : Option RuleError) (t : State ε) : Prop :=
  (t = afterPasses e.modes e.requestPasses e.state ∧ ¬ e.Spins) ∨
    ∃ last, last = afterPasses e.modes e.requestPasses e.state ∧ last.queue.toList = [] ∧
      e? = some (.noProgress maxIdlePasses) ∧
      t = last.fail (.noProgress maxIdlePasses) last.modeName ∧ e.Spins

variable {e : Engine ε}

theorem exists_ruleTurn_of_pass {grammar : String}
    (hs : s.Scans grammar (modes.map (·.name))) (h : pass modes s = (.error f, t)) :
    ∃ rule number t t', RuleTurn modes s rule number t ∧
      rule.exec { t with rule := number } = (.error (.fault f), t') := by
  obtain ⟨-, ⟨⟩, -⟩ | ⟨_, -, ⟨⟩, -⟩ | ⟨htext, hmarker, hrules⟩ := pass_cases h
  obtain ⟨hnone, -⟩ | ⟨mode, hmode, htried⟩ := hrules
  · obtain ⟨mode, hmode⟩ := hs.exists_mode
    rw [hnone] at hmode
    cases hmode
  cases htried with
  | abandoned hturn hexec => exact ⟨_, _, _, _, ⟨htext, hmarker, mode, hmode, hturn⟩, hexec⟩

/-- A pass that queues a token ends the request, so the passes in front of it are all that may have
been idle. -/
theorem not_spins (hq : (afterPasses e.modes e.requestPasses e.state).queue.toList ≠ [])
    (hfew : ∀ k < e.requestPasses, idleRun e.modes 0 e.state k < maxIdlePasses) : ¬ e.Spins := by
  rintro ⟨k, hk, hidle⟩
  have hrun := le_idleRun_iff.2 ⟨k, rfl, hidle⟩
  rcases Nat.lt_or_eq_of_le hk with hlt | heq
  · exact absurd hrun (Nat.not_le.2 (hfew _ hlt))
  · rw [← heq] at hq
    have hlast := hidle (maxIdlePasses - 1) (by decide)
    exact hq (afterPasses_succ (n := k + (maxIdlePasses - 1)) ▸ hlast.2)

/-- The passes that fill the queue are bounded by the text. Unless a rule is abandoned there is a
token in the queue behind them. The guard adds its error to an empty queue, and does so exactly if
the passes spin. -/
theorem fill_ends (hplain : Plain e.modes) {grammar : String}
    (hscans : e.state.Scans grammar (e.modes.map (·.name))) (hlive : e.state.stop = none) :
    e.requestPasses ≤ maxIdlePasses * e.state.text.byteSize + 1 ∧
    (∀ k < e.requestPasses, (afterPasses e.modes k e.state).queue.toList = []) ∧
    ((∃ f t, fill e.modes e.state = (.error f, t) ∧ e.Abandons f) ∨
      ∃ e? t, fill e.modes e.state = (.ok e?, t) ∧ e.FillsWith e? t) := by
  by_cases hq : e.state.queue.toList = []
  · have hempty : e.state.queue.isEmpty = true := Queue.isEmpty_iff.2 hq
    obtain ⟨n, answer, t, hcount, hbounded, hends⟩ :=
      @countedFill_ends ε e.modes 0 e.state hplain hq (by decide) (.inl rfl)
    have hfill : fill e.modes e.state = (answer, t) := by
      rw [fill, if_pos hempty, ← countedFill_snd, hcount]
    have hpasses : e.requestPasses = n := by
      simp [requestPasses, State.isHalted, hlive, hempty, hcount]
    subst hpasses
    rw [hfill]
    refine ⟨hbounded.count, hbounded.empty, ?_⟩
    cases hends with
    | @filled e? hfull =>
      exact .inr ⟨e?, _, rfl, .inl ⟨rfl, not_spins hfull hbounded.few⟩⟩
    | stalled hnone hrun =>
      obtain ⟨m, hm, hidle⟩ := le_idleRun_iff.1 (Nat.le_of_eq hrun.symm)
      exact .inr ⟨_, _, rfl, .inr ⟨_, rfl, hnone, rfl, rfl, m, Nat.le_of_eq hm, hidle⟩⟩
    | abandoned hk hpass =>
      obtain ⟨rule, number, u, u', hturn, hexec⟩ :=
        exists_ruleTurn_of_pass (afterPasses_scans hscans) hpass
      have hlt := Nat.lt_of_succ_le (Nat.le_of_eq hk)
      exact .inl ⟨_, _, rfl, _, rule, number, u, u', hlt, hturn, hexec⟩
  · have hfull : e.state.queue.isEmpty = false := by
      rwa [← Bool.not_eq_true, Queue.isEmpty_iff]
    have hpasses : e.requestPasses = 0 := by simp [requestPasses, hfull]
    have hspins : ¬ e.Spins := by
      refine not_spins (by rwa [hpasses]) fun k hk => ?_
      rw [hpasses] at hk
      exact absurd hk (Nat.not_lt_zero k)
    rw [hpasses]
    refine ⟨Nat.zero_le _, fun k hk => absurd hk (Nat.not_lt_zero k), .inr ?_⟩
    exact ⟨none, e.state, by simp [fill, hfull], .inl ⟨by rw [hpasses]; rfl, hspins⟩⟩

/-- A request of an engine with plain rules, in a mode that exists, returns its stop if the scan has
ended. Else it makes a number of passes that is bounded by the text, as long as the queue is empty,
and returns the first token of the queue. -/
theorem requests_end (e : Engine ε) (hplain : Plain e.modes) {grammar : String}
    (hscans : e.state.Scans grammar (e.modes.map (·.name))) :
    e.requestPasses ≤ maxIdlePasses * e.state.text.byteSize + 1 ∧
    (∀ k < e.requestPasses, (afterPasses e.modes k e.state).queue.toList = []) ∧
    ((∃ stop, e.state.stop = some stop ∧ e.requestPasses = 0 ∧ e.nextToken = (.ok stop, e)) ∨
      (∃ f, e.Abandons f ∧ e.nextToken.1 = .error f) ∨
      ∃ e? t token queue, fill e.modes e.state = (.ok e?, t) ∧ e.FillsWith e? t ∧
        t.queue.toList = token :: queue.toList ∧ e.nextToken = (.ok token,
          { e with state :=
            { t with queue, stop := if token.isStop then some token else none } })) := by
  cases hstop : e.state.stop with
  | some stop =>
    have hpasses : e.requestPasses = 0 := by simp [requestPasses, State.isHalted, hstop]
    rw [hpasses]
    refine ⟨Nat.zero_le _, fun k hk => absurd hk (Nat.not_lt_zero k), .inl ?_⟩
    exact ⟨stop, rfl, rfl, nextToken_of_halted hstop⟩
  | none =>
    obtain ⟨hle, hempty, hends⟩ := fill_ends hplain hscans hstop
    refine ⟨hle, hempty, .inr ?_⟩
    rcases hends with ⟨f, t, hfill, hrule⟩ | ⟨e?, t, hfill, hwith⟩
    · exact .inl ⟨f, hrule, by simp only [nextToken, hstop, hfill]⟩
    · obtain ⟨token, queued, hq⟩ := List.exists_cons_of_ne_nil (fill_queue hfill)
      obtain ⟨queue, rfl, hnext⟩ := nextToken_of_fill hplain hstop hfill hq
      exact .inr ⟨e?, t, token, queue, hfill, hwith, hq, hnext⟩

/-- A rule that fires without doing anything is tried as often as idle passes are allowed, although
the text would pay for more passes. -/
theorem requests_end_spinning : ∃ start e? t,
    Engine.start (.ofProcedure (.done true) : Grammar Unit) "é".toList = .ok start ∧
    start.requestPasses = 64 ∧ start.requestPasses ≤ maxIdlePasses * 2 + 1 ∧
    fill start.modes start.state = (.ok e?, t) ∧ start.FillsWith e? t ∧
    start.nextToken.1 = .ok ⟨some .stopError,
      "no progress after 64 rule passes (grammar='g', mode='root', rule=0)".toList⟩ := by
  obtain ⟨start, hstart, hpasses, hsize, hlive, htoken⟩ : ∃ start,
      Engine.start (.ofProcedure (.done true) : Grammar Unit) "é".toList = .ok start ∧
      start.requestPasses = 64 ∧ start.state.text.byteSize = 2 ∧ start.state.stop = none ∧
      start.nextToken.1.toOption = some ⟨some .stopError,
        "no progress after 64 rule passes (grammar='g', mode='root', rule=0)".toList⟩ := by
    decide +kernel
  obtain ⟨hcompile, -⟩ := start_cases hstart
  have hplain : Plain start.modes :=
    (Grammar.plain_ofProcedure (p := .done true) trivial).compile hcompile
  obtain ⟨hle, -, hends⟩ := requests_end start hplain (start_scans hstart)
  rw [hsize] at hle
  rcases hends with ⟨stop, hstop, -⟩ | ⟨f, -, hfault⟩ |
    ⟨e?, t, token, queue, hfill, hwith, -, hnext⟩
  · rw [hlive] at hstop
    cases hstop
  · rw [hfault] at htoken
    cases htoken
  · rw [hnext] at htoken
    cases htoken
    exact ⟨start, e?, t, hstart, hpasses, hle, hfill, hwith, by rw [hnext]⟩

/-- A rule may queue the token that stands for an empty queue, and the request returns it. A rule
that queues a token and requests it back makes idle passes, each of which has queued a token. -/
theorem queued_tokens_may_be_idle :
    let answer (p : Procedure Unit) : Option Token :=
      (Engine.start (.ofProcedure p) ['x']).toOption.bind fun e => e.nextToken.1.toOption
    answer (.push ⟨some .stopError, "empty output queue".toList⟩ (.done true)) =
        some ⟨some .stopError, "empty output queue".toList⟩ ∧
      answer (.push ⟨some .code, ['x']⟩ (.intervene (.request []) fun token? =>
          .done (token? = some ⟨some .code, ['x']⟩))) =
        some ⟨some .stopError,
          "no progress after 64 rule passes (grammar='g', mode='root', rule=0)".toList⟩ := by
  decide +kernel

end ModalLexer.Engine
