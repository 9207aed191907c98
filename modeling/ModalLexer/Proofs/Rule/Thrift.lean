import ModalLexer.Proofs.Rule.Passage
import ModalLexer.Proofs.Rule.Trace

/-! # What rules pay for the score

A thrifty rule moves the score by no more than the size in bytes of the text that it takes, on its
whole way. A pattern rule can be seen to be thrifty: its action begins with the emission of the
match, and the other steps move the score by no more than the number of characters that every match
has.
-/

namespace ModalLexer

variable {ε : Type}

namespace Pattern

/-- The least number of characters in a match. -/
def Matcher.least : Matcher → Nat
  | set _ => 1
  | group _ body | plus body _ => body.least
  | cat a b => a.least + b.least
  | alt a b => min a.least b.least
  | empty | anchor _ | once _ => 0

theorem Matcher.Reads.least_le {m : Matcher} {q r : Progress} {u : Text} (h : m.Reads q u r) :
    m.least ≤ u.length := by
  induction h with
  | empty | anchor | once | set => simp [least]
  | group _ ih | plusLast _ ih => exact ih
  | cat _ _ ih ih' =>
    simp only [least, List.length_append]
    omega
  | altFirst _ ih => exact Nat.le_trans (Nat.min_le_left _ _) ih
  | altSecond _ ih => exact Nat.le_trans (Nat.min_le_right _ _) ih
  | plusMore _ _ ih _ =>
    rw [List.length_append]
    exact Nat.le_add_right_of_le ih

theorem least_le_of_search {p : Pattern} {body : Matcher} {captures : Captures} {t : Text}
    (hbody : p.body? = some body) (h : p.search t = some captures) :
    body.least ≤ captures.span.stop := by
  obtain ⟨u, last, hread, rfl⟩ := reads_of_search hbody h
  have hoffset : last.offset = u.byteSize := by simpa [start] using hread.advances.2
  have hleast := hread.least_le
  have hlength : u.length ≤ u.byteSize := Text.length_le_byteSize
  simp only [hoffset]
  omega

end Pattern

theorem natAbs_toInt_add_le (a b : Int64) :
    (a + b).toInt.natAbs ≤ a.toInt.natAbs + b.toInt.natAbs := by
  have ha := a.toInt_lt
  have ha' := a.le_toInt
  have hb := b.toInt_lt
  have hb' := b.le_toInt
  rw [Int64.toInt_add, Int.bmod_def]
  split <;> omega

/-- A sum that the machine word has room for is not wrapped around. -/
theorem toInt_add_of_le {a b : Int64}
    (h : a.toInt.natAbs + b.toInt.natAbs ≤ Int64.maxValue.toInt) :
    (a + b).toInt = a.toInt + b.toInt := by
  have hmax : Int64.maxValue.toInt = 9223372036854775807 := Int64.toInt_maxValue
  rw [Int64.toInt_add]
  apply Int.bmod_eq_of_le <;> omega

namespace State

variable {s s' t u : State ε} {m n : Nat}

/-- The score moves by `n` at most from one state to another, and does not wrap around on the way if
the machine word has room for that. -/
structure Moves (n : Nat) (s s' : State ε) : Prop where
  drift : (s'.score - s.score).toInt.natAbs ≤ n
  fits : s.score.toInt.natAbs + n ≤ Int64.maxValue.toInt → s'.overflowed = s.overflowed

theorem moves_of_eq (hscore : s'.score = s.score) (hover : s'.overflowed = s.overflowed) :
    s.Moves n s' := ⟨by simp [hscore], fun _ => hover⟩

theorem Moves.refl (s : State ε) : s.Moves n s := moves_of_eq rfl rfl

theorem Moves.mono (h : s.Moves m s') (hle : m ≤ n) : s.Moves n s' :=
  ⟨Nat.le_trans h.drift hle, fun hroom => h.fits (by omega)⟩

theorem moves_addScore (delta : Int64) : s.Moves delta.toInt.natAbs (s.addScore delta) where
  drift := by simp [addScore, Int64.add_comm]
  fits hroom := by simp [addScore, toInt_add_of_le hroom]

theorem Moves.natAbs_le (h : s.Moves n s') :
    s'.score.toInt.natAbs ≤ s.score.toInt.natAbs + n := by
  have hadd := natAbs_toInt_add_le (s'.score - s.score) s.score
  rw [Int64.sub_add_cancel] at hadd
  have hdrift := h.drift
  omega

theorem Moves.trans (h : s.Moves m s') (h' : s'.Moves n t) : s.Moves (m + n) t where
  drift := by
    have hadd := natAbs_toInt_add_le (s'.score - s.score) (t.score - s'.score)
    have hsum : s'.score - s.score + (t.score - s'.score) = t.score - s.score := by grind
    rw [hsum] at hadd
    have hdrift := h.drift
    have hdrift' := h'.drift
    omega
  fits hroom := by
    have hle := h.natAbs_le
    exact (h'.fits (by omega)).trans (h.fits (by omega))

/-- Text is taken off the front, and the score moves by no more than its size. -/
def Pays (s s' : State ε) : Prop := ∃ taken, s.text = taken ++ s'.text ∧ s.Moves taken.byteSize s'

theorem pays_of_suffix (htext : s'.text <:+ s.text) (hscore : s'.score = s.score)
    (hover : s'.overflowed = s.overflowed) : s.Pays s' := by
  obtain ⟨taken, htext⟩ := htext
  exact ⟨taken, htext.symm, moves_of_eq hscore hover⟩

theorem Pays.trans (h : s.Pays s') (h' : s'.Pays t) : s.Pays t := by
  obtain ⟨taken, htext, hmoves⟩ := h
  obtain ⟨more, htext', hmoves'⟩ := h'
  refine ⟨taken ++ more, by rw [htext, htext', List.append_assoc], ?_⟩
  rw [Text.byteSize_append]
  exact hmoves.trans hmoves'

/-- What else changes than the text and the score costs nothing. -/
theorem Pays.of_eq (h : s.Pays s') (htext : t.text = s'.text) (hscore : t.score = s'.score)
    (hover : t.overflowed = s'.overflowed) : s.Pays t :=
  h.trans (pays_of_suffix (htext ▸ List.suffix_refl _) hscore hover)

/-- The outcome of what was done on the given way: it was not abandoned, and the score has never
been further from where it was than the size of the text that is taken in the end. -/
structure Affords (s : State ε) (way : List (State ε)) (o : Outcome ε) : Prop where
  answers : ∀ f, o.1 ≠ .error (.fault f)
  within : ∃ taken, s.text = taken ++ o.2.text ∧ ∀ u ∈ way, s.Moves taken.byteSize u

section

variable {way : List (State ε)} {o : Outcome ε}

theorem affords_of_moves (hanswers : ∀ f, o.1 ≠ .error (.fault f)) (htext : o.2.text <:+ s.text)
    (hway : ∀ u ∈ way, s.Moves 0 u) : s.Affords way o := by
  obtain ⟨taken, htext⟩ := htext
  exact ⟨hanswers, taken, htext.symm, fun u hu => (hway u hu).mono (Nat.zero_le _)⟩

theorem Affords.cons (h : s.Affords way o) : s.Affords (s :: way) o := by
  obtain ⟨taken, htext, hmoves⟩ := h.within
  exact ⟨h.answers, taken, htext, List.forall_mem_cons.2 ⟨.refl s, hmoves⟩⟩

theorem Affords.pays (h : s.Affords way o) (hlast : way.getLast? = some o.2) : s.Pays o.2 := by
  obtain ⟨taken, htext, hmoves⟩ := h.within
  exact ⟨taken, htext, hmoves o.2 (List.mem_of_getLast? hlast)⟩

end

/-- An emission leaves the score. -/
theorem moves_emit {kind : TokenType} {k : Nat} (h : s.emit kind k = .ok s') : s.Moves n s' := by
  unfold emit consume at h
  cases hsplit : s.text.splitBytes? k with
  | none => rw [hsplit] at h; cases h
  | some parts =>
    rw [hsplit] at h
    cases h
    exact moves_of_eq rfl rfl

theorem moves_accept (found : Option (Token × Text)) : s.Moves n (s.accept found).2 := by
  cases found with
  | none => exact .refl s
  | some p =>
    simp only [accept]
    split
    · exact .refl s
    · exact moves_of_eq rfl rfl

theorem moves_of_mem_emitTrace {pieces : List (TokenType × Nat)} (hu : u ∈ s.emitTrace pieces) :
    s.Moves 0 u := by
  induction pieces generalizing s with
  | nil => rw [List.mem_singleton.1 hu]; exact .refl s
  | cons piece pieces ih =>
    simp only [emitTrace] at hu
    rcases List.mem_cons.1 hu with rfl | hmem
    · exact .refl u
    · split at hmem
      · next t hemit => exact (moves_emit (n := 0) hemit).trans (ih hmem)
      · cases hmem

end State

namespace Action

variable {action step : Action ε} {captures : Pattern.Captures} {kinds : List TokenType}
  {more : List (Action ε)} {s s' u : State ε} {limit : Nat} {fired : Bool}
  {result : Except Interruption Bool}

/-- How far a step moves the score. -/
def movement : Action ε → Nat
  | score delta => delta.toInt.natAbs
  | _ => 0

/-- How far steps move the score at most, one after the other. -/
def movements : List (Action ε) → Nat
  | [] => 0
  | step :: more => step.movement + movements more

/-- A change of the score or the mode. -/
def IsSetting (step : Action ε) : Prop := step.IsStep (fun _ => True) ∧ step.emits = false

@[simp] theorem isSetting_score (delta : Int64) : (score delta : Action ε).IsSetting :=
  ⟨trivial, rfl⟩

@[simp] theorem isSetting_enter (mode : String) : (enter mode : Action ε).IsSetting :=
  ⟨trivial, rfl⟩

@[simp] theorem isSetting_exit : (exit : Action ε).IsSetting := ⟨trivial, rfl⟩

theorem moves_of_mem_trace (hstep : step.IsSetting) (hu : u ∈ trace captures step s) :
    s.Moves step.movement u := by
  cases step with
  | emit => cases hstep.2
  | sequence | custom => exact hstep.1.elim
  | score delta =>
    simp only [trace, List.mem_cons, List.not_mem_nil, or_false] at hu
    rcases hu with rfl | rfl
    · exact .refl u
    · exact State.moves_addScore delta
  | enter mode =>
    simp only [trace] at hu
    split at hu
    · next t henter =>
      obtain ⟨_, -, rfl⟩ := State.enter_cases henter
      rcases List.mem_cons.1 hu with rfl | hmem
      · exact .refl u
      · rw [List.mem_singleton.1 hmem]
        exact State.moves_of_eq rfl rfl
    · rw [List.mem_singleton.1 hu]
      exact .refl s
  | exit =>
    simp only [trace] at hu
    split at hu
    · next t hexit =>
      obtain ⟨_, _, -, rfl⟩ := State.exit_cases hexit
      rcases List.mem_cons.1 hu with rfl | hmem
      · exact .refl u
      · rw [List.mem_singleton.1 hmem]
        exact State.moves_of_eq rfl rfl
    · rw [List.mem_singleton.1 hu]
      exact .refl s

theorem moves_of_mem_traceAll (hmore : ∀ step ∈ more, step.IsSetting)
    (hu : u ∈ traceAll captures more s) : s.Moves (movements more) u := by
  induction more generalizing s with
  | nil => rw [List.mem_singleton.1 hu]; exact .refl s
  | cons step more ih =>
    obtain ⟨hstep, hmore⟩ := List.forall_mem_cons.1 hmore
    simp only [traceAll, List.mem_append] at hu
    rw [movements]
    rcases hu with hfirst | hrest
    · exact (moves_of_mem_trace hstep hfirst).mono (Nat.le_add_right _ _)
    · split at hrest
      · next fired t hexec =>
        have hlast : t ∈ trace captures step s := by
          have hget := getLast?_trace captures step s
          rw [hexec] at hget
          exact List.mem_of_getLast? hget
        exact (moves_of_mem_trace hstep hlast).trans (ih hmore hrest)
      · cases hrest

/-- An emission that does not fail takes the text up to the end of the match. -/
theorem exec_emit_takes (hc : captures.LieIn s.text)
    (h : (emit kinds).exec captures s = (result, s')) :
    (∀ f, result ≠ .error (.fault f)) ∧ ∀ fired, result = .ok fired →
      ∃ taken, s.text = taken ++ s'.text ∧ taken.byteSize = captures.span.stop := by
  simp only [exec] at h
  split at h
  · cases h
    exact ⟨by simp, by simp⟩
  · next hnil =>
    cases h
    have hstop := (emission_eq_nil hc hnil).1 rfl
    exact ⟨by simp, fun _ _ => ⟨[], rfl, hstop.symm⟩⟩
  · next pieces _ hpieces =>
    obtain ⟨parts, rfl, hcut⟩ := emission_cuts hc hpieces
    obtain ⟨t, ht, -, htext, -⟩ := State.emitAll_cuts hcut
    rw [ht] at h
    cases h
    have hstop := hcut.stop_eq
    rw [Text.byteSize_nil, Nat.zero_add] at hstop
    exact ⟨by simp, fun _ _ => ⟨_, htext, hstop⟩⟩

theorem moves_of_mem_trace_emit (hu : u ∈ trace captures (emit kinds) s) : s.Moves 0 u := by
  simp only [trace] at hu
  split at hu
  · exact State.moves_of_mem_emitTrace hu
  · rw [List.mem_singleton.1 hu]
    exact .refl s

/-- The action affords what it does behind a match of at least `limit` bytes. -/
def Within (limit : Nat) (action : Action ε) : Prop :=
  ∀ (captures : Pattern.Captures) (s : State ε), captures.LieIn s.text →
    limit ≤ captures.span.stop →
      s.Affords (action.trace captures s) (action.exec captures s)

theorem within_emit : Within limit (emit kinds : Action ε) := by
  intro captures s hc _
  obtain ⟨hfault, -⟩ := exec_emit_takes hc (rfl : (emit kinds).exec captures s = (_, _))
  exact State.affords_of_moves hfault (exec_text consuming_suffix captures (.emit kinds) s)
    fun u hu => moves_of_mem_trace_emit hu

/-- An emission and steps behind it that move the score by `limit` at most. -/
theorem within_sequence (hmore : ∀ step ∈ more, step.IsSetting)
    (hlimit : movements more ≤ limit) :
    Within limit (sequence (emit kinds :: more)) := by
  intro captures s hc hstop
  have hemitted : ∀ u ∈ trace captures (emit kinds) s, s.Moves 0 u :=
    fun u hu => moves_of_mem_trace_emit hu
  have hsuffix := exec_text consuming_suffix captures (.emit kinds) s
  have hlast := getLast?_trace captures (emit kinds) s
  rw [exec, execAll, trace, traceAll]
  cases hexec : (emit kinds).exec captures s with
  | mk result t =>
    rw [hexec] at hsuffix hlast
    obtain ⟨hfault, htaken⟩ := exec_emit_takes hc hexec
    cases result with
    | error e => exact State.affords_of_moves hfault hsuffix (by simpa using hemitted)
    | ok fired =>
      obtain ⟨taken, htext, hsize⟩ := htaken fired rfl
      cases hrest : execAll captures fired more t with
      | mk result s' =>
        obtain ⟨hfault', htext', -⟩ := execAll_keeps hmore hrest
        simp only [hrest]
        refine ⟨hfault', taken, by rw [htext', htext], fun u hu => ?_⟩
        rcases List.mem_append.1 hu with hfirst | hbehind
        · exact (hemitted u hfirst).mono (Nat.zero_le _)
        · have hnone := hemitted t (List.mem_of_getLast? hlast)
          exact (hnone.trans (moves_of_mem_traceAll hmore hbehind)).mono (by omega)

end Action

namespace Procedure

variable {s : State ε} {word rest : Text} {kind : TokenType} {delta : Int64}

/-- A word covers what is added to the score before it is taken. -/
theorem affords_addScore (htext : s.text = word ++ rest)
    (hdelta : delta.toInt.natAbs ≤ word.byteSize) :
    s.Affords ((addScore delta (.emit kind word.byteSize (.done true))).trace s)
      ((addScore delta (.emit kind word.byteSize (.done true))).run s) := by
  have hemit : (s.addScore delta).emit kind word.byteSize
      = .ok ({ s.addScore delta with text := rest }.push ⟨some kind, word⟩) :=
    State.emit_byteSize (s := s.addScore delta) htext
  have hadded : s.Moves word.byteSize (s.addScore delta) := (State.moves_addScore delta).mono hdelta
  simp only [run, trace, hemit]
  refine ⟨by simp, word, htext, ?_⟩
  simp only [List.forall_mem_cons, List.not_mem_nil, false_implies, implies_true, and_true]
  exact ⟨.refl s, hadded, hadded.trans (n := 0) (State.moves_of_eq rfl rfl)⟩

theorem affords_emit (htext : s.text = word ++ rest) :
    s.Affords ((emit kind word.byteSize (.done true)).trace s)
      ((emit kind word.byteSize (.done true)).run s) := by
  have hemit : s.emit kind word.byteSize
      = .ok ({ s with text := rest }.push ⟨some kind, word⟩) := State.emit_byteSize htext
  simp only [run, trace, hemit]
  apply State.affords_of_moves
  · simp
  · exact ⟨word, htext.symm⟩
  · simp only [List.forall_mem_cons, List.not_mem_nil, false_implies, implies_true, and_true]
    exact ⟨.refl s, State.moves_of_eq rfl rfl⟩

theorem affords_done {fired : Bool} : s.Affords ((done fired).trace s) ((done fired).run s) := by
  apply State.affords_of_moves
  · simp [run]
  · exact List.suffix_refl _
  · exact List.forall_mem_singleton.2 (.refl s)

theorem affords_scan (scanner : Scanner) :
    s.Affords ((ofScanner scanner).trace s) ((ofScanner scanner).run s) := by
  apply State.affords_of_moves
  · simp [ofScanner, run]
  · exact run_text consuming_suffix (p := ofScanner scanner) (fun _ => trivial) s
  · exact List.forall_mem_cons.2
      ⟨.refl s, List.forall_mem_singleton.2 (State.moves_accept _)⟩

end Procedure

/-- The rule affords whatever it does. -/
def CompiledRule.Thrifty (r : CompiledRule ε) : Prop :=
  ∀ s : State ε, s.Affords (r.trace s) (r.exec s)

theorem CompiledRule.Thrifty.pays {r : CompiledRule ε} {s s' : State ε}
    {result : Except Interruption Bool} (hr : r.Thrifty) (h : r.exec s = (result, s')) :
    s.Pays s' := by
  have hpays := (hr s).pays (r.getLast?_trace s)
  rwa [h] at hpays

namespace Rule

/-- The rule is thrifty once it is compiled. -/
def Thrifty (r : Rule ε) : Prop := ∀ c, r.compile = .ok c → c.Thrifty

/-- Whether every match of the pattern has `limit` characters at least. -/
def costs (source : String) (limit : Nat) : Bool :=
  match Pattern.compile (anchoredSource source.toList) with
  | .ok p => p.body?.any (limit ≤ ·.least)
  | .error _ => false

variable {source : String} {action : Action ε} {kinds : List TokenType} {more : List (Action ε)}

theorem thrifty_pattern (limit : Nat) (haction : action.Within limit)
    (hlimit : ∀ p t captures, Pattern.compile (anchoredSource source.toList) = .ok p →
      p.search t = some captures → limit ≤ captures.span.stop) :
    (pattern source action).Thrifty := by
  intro c hc s
  rw [compile] at hc
  cases hp : Pattern.compile (anchoredSource source.toList) with
  | error e => rw [hp] at hc; cases hc
  | ok p =>
    rw [hp] at hc
    cases hc
    simp only [CompiledRule.exec, CompiledRule.trace]
    cases hsearch : p.search s.text with
    | none =>
      exact State.affords_of_moves (by simp) (List.suffix_refl _)
        (List.forall_mem_singleton.2 (.refl s))
    | some captures =>
      exact haction captures s (Pattern.search_lieIn hsearch) (hlimit p s.text captures hp hsearch)

/-- A rule that only emits leaves the score. -/
theorem thrifty_emit : (pattern source (.emit kinds) : Rule ε).Thrifty :=
  thrifty_pattern 0 Action.within_emit fun _ _ _ _ _ => Nat.zero_le _

/-- A rule that emits and then moves the score by no more than the size of its matches. -/
theorem thrifty_sequence (limit : Nat) (hcosts : costs source limit = true)
    (hmore : ∀ step ∈ more, step.IsSetting) (hsum : Action.movements more ≤ limit) :
    (pattern source (.sequence (.emit kinds :: more))).Thrifty := by
  refine thrifty_pattern limit (Action.within_sequence hmore hsum) ?_
  intro p t captures hp hsearch
  rw [costs, hp] at hcosts
  obtain ⟨body, hbody, hleast⟩ := (Option.any_eq_true _ _).1 hcosts
  exact Nat.le_trans (of_decide_eq_true hleast) (Pattern.least_le_of_search hbody hsearch)

theorem thrifty_score {delta : Int64} (hcosts : costs source delta.toInt.natAbs = true) :
    (pattern source ((Action.emit kinds).andThen (.score delta)) : Rule ε).Thrifty :=
  thrifty_sequence _ hcosts (by simp) (by simp [Action.movements, Action.movement])

/-- A rule that emits and then changes the mode leaves the score. -/
theorem thrifty_mode {move : Action ε} (hmove : move.IsSetting) (hnone : move.movement = 0) :
    (pattern source ((Action.emit kinds).andThen move)).Thrifty := by
  have hsum : Action.movements [move] ≤ 0 := by simp [Action.movements, hnone]
  exact thrifty_pattern 0 (Action.within_sequence (by simpa using hmove) hsum)
    fun _ _ _ _ _ => Nat.zero_le _

theorem thrifty_procedure {p : Procedure ε} (h : ∀ s : State ε, s.Affords (p.trace s) (p.run s)) :
    (procedure p).Thrifty := by
  rintro _ ⟨⟩
  exact h

theorem thrifty_scanIf {cond : Char → Bool} {scanner : Scanner} :
    (procedure (.scanIf cond scanner) : Rule ε).Thrifty := by
  apply thrifty_procedure
  intro s
  simp only [Procedure.scanIf, Procedure.run, Procedure.trace]
  apply State.Affords.cons
  split
  · exact Procedure.affords_scan scanner
  · exact Procedure.affords_done

end Rule

end ModalLexer
