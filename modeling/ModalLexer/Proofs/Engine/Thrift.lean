import ModalLexer.Detection
import ModalLexer.Proofs.Engine.Passes
import ModalLexer.Proofs.Rule.Thrift

/-! # Scores that the text covers

A scan with thrifty rules is never abandoned, and between two of its passes the score is at most the
size in bytes of the text that has been taken. Even while a rule is at work it is no larger than the
whole text, so it never wraps around if the text fits into memory.
-/

namespace ModalLexer

variable {ε : Type}

/-- The text that has been taken covers the score, which has never wrapped around if the machine
word has room for the size of the text. -/
structure State.Covered (text : Text) (s : State ε) : Prop where
  taken : ∃ taken, text = taken ++ s.text ∧ s.score.toInt.natAbs ≤ taken.byteSize
  fits : text.byteSize ≤ Int64.maxValue.toInt → s.overflowed = false

namespace State

variable {text : Text} {s s' u : State ε}

theorem Covered.natAbs_le (h : s.Covered text) : s.score.toInt.natAbs ≤ text.byteSize := by
  obtain ⟨taken, rfl, hscore⟩ := h.taken
  rw [Text.byteSize_append]
  exact Nat.le_add_right_of_le hscore

/-- While text is taken that pays for it, the whole text covers the score. -/
theorem Covered.of_moves {taken rest : Text} (h : s.Covered text) (htext : s.text = taken ++ rest)
    (hmoves : s.Moves taken.byteSize u) : u.score.toInt.natAbs ≤ text.byteSize ∧
      (text.byteSize ≤ Int64.maxValue.toInt → u.overflowed = false) := by
  obtain ⟨front, hfront, hscore⟩ := h.taken
  have hsize := congrArg Text.byteSize hfront
  rw [htext, Text.byteSize_append, Text.byteSize_append] at hsize
  have hle := hmoves.natAbs_le
  exact ⟨by omega, fun hroom => (hmoves.fits (by omega)).trans (h.fits hroom)⟩

theorem Covered.pays (h : s.Covered text) (hpays : s.Pays s') : s'.Covered text := by
  obtain ⟨more, htext, hmoves⟩ := hpays
  refine ⟨?_, (h.of_moves htext hmoves).2⟩
  obtain ⟨taken, rfl, hscore⟩ := h.taken
  refine ⟨taken ++ more, by rw [htext, List.append_assoc], ?_⟩
  have hle := hmoves.natAbs_le
  rw [Text.byteSize_append]
  omega

end State

namespace Engine

open State

variable {modes : List (CompiledMode ε)} {mode : String} {index number idle limit n : Nat}
  {rule : CompiledRule ε} {rules : List (CompiledRule ε)} {s s' t u : State ε} {e : Engine ε}
  {answer : Except Fault (Option RuleError)} {text : Text} {grammar : String}

theorem Declined.pays (h : Declined index rules s t) (hrules : ∀ r ∈ rules, r.Thrifty) :
    s.Pays t := by
  induction h with
  | nil index s => exact pays_of_suffix (List.suffix_refl _) rfl rfl
  | @cons index rule rules s s' t hexec _ ih =>
    have hnumbered : s.Pays { s with rule := index } :=
      pays_of_suffix (List.suffix_refl _) rfl rfl
    have hfirst := (hrules rule List.mem_cons_self).pays hexec
    exact hnumbered.trans (hfirst.trans (ih fun r hr => hrules r (List.mem_cons_of_mem _ hr)))

theorem Turn.thrifty (h : Turn index rules s rule number t) (hrules : ∀ r ∈ rules, r.Thrifty) :
    rule.Thrifty ∧ s.Pays { t with rule := number } := by
  obtain ⟨before, after, rfl, -, hdeclined⟩ := h
  have hpays := hdeclined.pays fun r hr => hrules r (by simp [hr])
  exact ⟨hrules rule (by simp), hpays.of_eq rfl rfl rfl⟩

section Passes

variable (hmodes : ∀ mode ∈ modes, ∀ r ∈ mode.rules, r.Thrifty)
include hmodes

/-- What a pass adds to the score or takes from it, it pays with text. -/
theorem pass_pays (h : pass modes s = (answer, s')) : s.Pays s' := by
  rcases pass_cases h with ⟨-, rfl, rfl⟩ | ⟨marker, -, rfl, rfl⟩ | ⟨-, -, hrules⟩
  · exact pays_of_suffix (List.suffix_refl _) rfl rfl
  · exact pays_of_suffix (List.drop_suffix _ _) rfl rfl
  rcases hrules with ⟨-, -, rfl⟩ | ⟨mode, hmode, htried⟩
  · exact pays_of_suffix (List.suffix_refl _) rfl rfl
  have hthrifty := hmodes mode (List.mem_of_getElem? hmode)
  cases htried with
  | fired hturn hexec | failed hturn hexec | abandoned hturn hexec =>
    obtain ⟨hrule, hpays⟩ := hturn.thrifty hthrifty
    exact (hpays.trans (hrule.pays hexec)).of_eq rfl rfl rfl
  | unmatched hdeclined => exact (hdeclined.pays hthrifty).of_eq rfl rfl rfl

/-- No pass over thrifty rules is abandoned in a mode that exists. -/
theorem pass_answers (hs : s.Scans grammar (modes.map (·.name)))
    (h : pass modes s = (answer, s')) : ∀ f, answer ≠ .error f := by
  rcases pass_cases h with ⟨-, rfl, -⟩ | ⟨marker, -, rfl, -⟩ | ⟨-, -, hrules⟩
  · simp
  · simp
  rcases hrules with ⟨hnone, -⟩ | ⟨mode, hmode, htried⟩
  · obtain ⟨mode, hmode⟩ := hs.exists_mode
    rw [hnone] at hmode
    cases hmode
  cases htried with
  | fired | failed | unmatched => simp
  | abandoned hturn hexec =>
    obtain ⟨hrule, -⟩ := hturn.thrifty (hmodes mode (List.mem_of_getElem? hmode))
    exact absurd (congrArg Prod.fst hexec) ((hrule _).answers _)

theorem pass_covered (h : s.Covered text) : (pass modes s).2.Covered text :=
  h.pays (pass_pays hmodes rfl)

theorem Passes.covered (h : Passes modes idle s n u) (hs : s.Covered text) : u.Covered text := by
  induction h with
  | refl => exact hs
  | pass hpass _ _ _ ih => exact ih (hs.pays (pass_pays hmodes hpass))

/-- While a rule has its turn the whole text covers the score. -/
theorem RuleTurn.covered (h : RuleTurn modes s rule number t) (hs : s.Covered text)
    (hu : u ∈ rule.trace { t with rule := number }) : u.score.toInt.natAbs ≤ text.byteSize ∧
      (text.byteSize ≤ Int64.maxValue.toInt → u.overflowed = false) := by
  obtain ⟨-, -, mode, hmode, hturn⟩ := h
  obtain ⟨hrule, hpays⟩ := hturn.thrifty (hmodes mode (List.mem_of_getElem? hmode))
  obtain ⟨taken, htext, hmoves⟩ := (hrule { t with rule := number }).within
  exact (hs.pays hpays).of_moves htext (hmoves u hu)

end Passes

/-- The scan is in a mode that exists, and its score is covered. -/
structure Balanced (text : Text) (grammar : String) (names : List String) (s : State ε) : Prop where
  covered : s.Covered text
  scans : s.Scans grammar names

theorem pass_balanced (hmodes : ∀ mode ∈ modes, ∀ r ∈ mode.rules, r.Thrifty)
    (hs : Balanced text grammar (modes.map (·.name)) s) (h : pass modes s = (answer, s')) :
    (∀ f, answer ≠ .error f) ∧ Balanced text grammar (modes.map (·.name)) s' := by
  have hscans : (pass modes s).2.Scans grammar (modes.map (·.name)) :=
    pass_kept State.kept_scans (fun _ hs => hs.of_same rfl rfl rfl rfl)
      (allows_of_forall State.scans_keptBy modes) hs.scans
  rw [h] at hscans
  exact ⟨pass_answers hmodes hs.scans h, hs.covered.pays (pass_pays hmodes h), hscans⟩

theorem nextToken_balanced (hmodes : ∀ mode ∈ e.modes, ∀ r ∈ mode.rules, r.Thrifty)
    (h : Balanced text grammar (e.modes.map (·.name)) e.state) :
    ∃ token e', e.nextToken = (.ok token, e') ∧ e'.modes = e.modes ∧
      Balanced text grammar (e.modes.map (·.name)) e'.state := by
  cases hstop : e.state.stop with
  | some stop => exact ⟨stop, e, nextToken_of_halted hstop, rfl, h⟩
  | none =>
    cases hfill : fill e.modes e.state with
    | mk answer s =>
      obtain ⟨hfault, hs⟩ := fill_answers
        (P := Balanced text grammar (e.modes.map (·.name)))
        (fun hs hpass => pass_balanced hmodes hs hpass)
        (fun _ _ hs => ⟨⟨hs.covered.taken, hs.covered.fits⟩, hs.scans.of_same rfl rfl rfl rfl⟩)
        h hfill
      cases answer with
      | error f => exact absurd rfl (hfault f)
      | ok e? =>
        obtain ⟨token, queued, hq⟩ := List.exists_cons_of_ne_nil (fill_queue hfill)
        obtain ⟨queue, -, hnext⟩ := nextToken_eq_of_fill hstop hfill hq
        exact ⟨token, _, hnext, rfl, ⟨hs.covered.taken, hs.covered.fits⟩,
          hs.scans.of_same rfl rfl rfl rfl⟩

theorem run_balanced {r : Run ε} (hmodes : ∀ mode ∈ e.modes, ∀ r ∈ mode.rules, r.Thrifty)
    (h : Balanced text grammar (e.modes.map (·.name)) e.state) (hr : e.run limit = .ok r) :
    r.last.state.Covered text := by
  induction limit generalizing e r with
  | zero => cases hr
  | succ limit ih =>
    obtain ⟨token, e', hnext, hsame, h'⟩ := nextToken_balanced hmodes h
    simp only [run, hnext] at hr
    split at hr
    · cases hr
      exact h'.covered
    · cases hrest : e'.run limit with
      | error f => rw [hrest] at hr; cases hr
      | ok rest =>
        rw [hrest] at hr
        cases hr
        have hlast := ih (hsame ▸ hmodes) (hsame ▸ h') hrest
        exact hlast

/-- The score is covered between two requests, between two passes of the next request, and, by the
whole text, in every state that a rule of these passes goes through. -/
structure Covered (text : Text) (e : Engine ε) : Prop where
  now : e.state.Covered text
  passes : ∀ u, e.PassBegins u → u.Covered text ∧ (pass e.modes u).2.Covered text
  turns : ∀ u rule number t, e.PassBegins u → RuleTurn e.modes u rule number t →
    ∀ v ∈ rule.trace { t with rule := number }, v.score.toInt.natAbs ≤ text.byteSize ∧
      (text.byteSize ≤ Int64.maxValue.toInt → v.overflowed = false)

theorem covered_of_thrifty (hmodes : ∀ mode ∈ e.modes, ∀ r ∈ mode.rules, r.Thrifty)
    (h : e.state.Covered text) : e.Covered text where
  now := h
  passes u hu := by
    obtain ⟨-, n, hpasses⟩ := hu
    have hcovered := hpasses.covered hmodes h
    exact ⟨hcovered, pass_covered hmodes hcovered⟩
  turns u rule number t hu hturn v hv := by
    obtain ⟨-, n, hpasses⟩ := hu
    exact hturn.covered hmodes (hpasses.covered hmodes h) hv

end Engine

namespace Grammar

variable {g : Grammar ε} {text : Text} {limit : Nat}

/-- Whatever the markers are, any number of requests is answered, and the text that has been taken
covers the score all the time. Detection finds a score, which is that of a scan and is never wrapped
around. -/
structure CoversScores (g : Grammar ε) (text : Text) : Prop where
  scans : ∃ start, Engine.start g text = .ok start ∧ ∀ markers n,
    ∃ r, (start.addMarkers markers).pulls n = .ok r ∧ r.engine.Covered text
  detection : ∀ markers,
    (∃ score, Detection.scoreText g text markers (text.byteSize + 1) = .ok score) ∧
      ∀ limit score, Detection.scoreText g text markers limit = .ok score →
        score.natAbs ≤ text.byteSize ∧ ∃ r, g.scan text markers limit = .ok r ∧
          score = r.last.state.score.toInt ∧ r.last.state.Covered text

def Thrifty (g : Grammar ε) : Prop :=
  ∀ modes, g.modes? = some modes → ∀ mode ∈ modes, ∀ r ∈ mode.rules, r.Thrifty

theorem Thrifty.compile {modes : List (CompiledMode ε)} (hg : g.Thrifty)
    (h : g.compile = .ok modes) : ∀ mode ∈ modes, ∀ r ∈ mode.rules, r.Thrifty :=
  forall_compile (fun _ c hr hrc => hr c hrc) hg h

theorem Thrifty.modes_of_start {start : Engine ε} (hg : g.Thrifty)
    (hstart : Engine.start g text = .ok start) (markers : List Text) :
    (∀ mode ∈ (start.addMarkers markers).modes, ∀ r ∈ mode.rules, r.Thrifty) ∧
      Engine.Balanced text g.name ((start.addMarkers markers).modes.map (·.name))
        (start.addMarkers markers).state := by
  obtain ⟨hcompile, hstate⟩ := Engine.start_cases hstart
  refine ⟨hg.compile hcompile, ⟨⟨[], ?_, ?_⟩, ?_⟩, ?_⟩
  · simp [Engine.addMarkers, State.addMarkers, hstate]
  · simp [Engine.addMarkers, State.addMarkers, hstate]
  · simp [Engine.addMarkers, State.addMarkers, hstate]
  · exact (Engine.start_scans hstart).of_same rfl rfl rfl rfl

theorem Thrifty.pulls {start : Engine ε} (hg : g.Thrifty)
    (hstart : Engine.start g text = .ok start) (markers : List Text) (n : Nat) :
    ∃ r, (start.addMarkers markers).pulls n = .ok r ∧ r.engine.Covered text := by
  obtain ⟨hmodes, hbalanced⟩ := hg.modes_of_start hstart markers
  have hkept := Engine.exists_pulls
    (I := fun _ e => (∀ mode ∈ e.modes, ∀ r ∈ mode.rules, r.Thrifty) ∧
      Engine.Balanced text g.name (e.modes.map (·.name)) e.state)
    (fun _ e ⟨hmodes, hbalanced⟩ _ => by
      obtain ⟨token, e', hnext, hsame, hbalanced'⟩ := Engine.nextToken_balanced hmodes hbalanced
      exact ⟨token, e', hnext, hsame ▸ hmodes, hsame ▸ hbalanced'⟩)
    n [] ⟨hmodes, hbalanced⟩
  obtain ⟨r, hr, hmodes', hbalanced'⟩ := hkept
  exact ⟨r, hr, Engine.covered_of_thrifty hmodes' hbalanced'.covered⟩

theorem Thrifty.scan {markers : List Text} {r : Run ε} (hg : g.Thrifty)
    (h : g.scan text markers limit = .ok r) : r.last.state.Covered text := by
  unfold Grammar.scan at h
  cases hstart : Engine.start g text with
  | error e => rw [hstart] at h; cases h
  | ok start =>
    rw [hstart] at h
    obtain ⟨hmodes, hbalanced⟩ := hg.modes_of_start hstart markers
    cases hrun : (start.addMarkers markers).run limit with
    | error f => simp [hrun, Except.mapError] at h
    | ok r' =>
      simp only [hrun, Except.mapError, Except.ok.injEq] at h
      rw [← h]
      exact Engine.run_balanced hmodes hbalanced hrun

/-- Thrifty rules cover the score if the grammar comes to a stop on the text. -/
theorem Thrifty.coversScores (hg : g.Thrifty)
    (hscan : ∀ markers, ∃ r, g.scan text markers (text.byteSize + 1) = .ok r) :
    g.CoversScores text := by
  constructor
  · obtain ⟨r, hr⟩ := hscan []
    unfold Grammar.scan at hr
    cases hstart : Engine.start g text with
    | error e => rw [hstart] at hr; cases hr
    | ok start => exact ⟨start, rfl, hg.pulls hstart⟩
  · intro markers
    refine ⟨?_, fun limit score hscore => ?_⟩
    · obtain ⟨r, hr⟩ := hscan markers
      exact ⟨r.last.state.score.toInt, by rw [Detection.scoreText, hr]; rfl⟩
    · unfold Detection.scoreText at hscore
      cases hr : g.scan text markers limit with
      | error e => rw [hr] at hscore; cases hscore
      | ok r =>
        rw [hr] at hscore
        cases hscore
        have hcovered := hg.scan hr
        exact ⟨hcovered.natAbs_le, r, rfl, rfl, hcovered⟩

end Grammar

end ModalLexer
