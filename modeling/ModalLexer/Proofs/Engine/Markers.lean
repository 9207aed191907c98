import ModalLexer.Proofs.Engine.Transfer

/-! # Stop markers

Plain rules neither see nor change the stop markers, so two scans of a text with different markers
go through the same states, until a pass of one of them begins at a marker. Such a pass runs no rule
and ends the scan. A rule that requests tokens itself does see the markers.
-/

namespace ModalLexer

variable {ε : Type}

namespace State

/-- The same state with other stop markers. -/
def mark (s : State ε) (markers : List Text) : State ε := { s with markers }

variable {s : State ε} {markers : List Text}

@[simp] theorem mark_text : (s.mark markers).text = s.text := rfl

@[simp] theorem mark_queue : (s.mark markers).queue = s.queue := rfl

theorem mark_consume (n : Nat) :
    (s.mark markers).consume n = (s.consume n).map fun p => (p.1, p.2.mark markers) := by
  simp only [consume, mark_text]
  split <;> rfl

theorem mark_emit (kind : TokenType) (n : Nat) :
    (s.mark markers).emit kind n = (s.emit kind n).map fun s => s.mark markers := by
  simp only [emit, mark_consume]
  cases s.consume n <;> rfl

theorem mark_accept (found : Option (Token × Text)) :
    (s.mark markers).accept found = ((s.accept found).1, (s.accept found).2.mark markers) := by
  cases found with
  | none => rfl
  | some p => simp only [accept]; split <;> rfl

theorem mark_scanBytes (kind : TokenType) (n : Nat) :
    (s.mark markers).scanBytes kind n
      = (s.scanBytes kind n).map fun p => (p.1, p.2.mark markers) := by
  simp only [scanBytes, mark_text]
  split
  · rw [mark_accept]; rfl
  · rfl

theorem mark_enter (name : String) :
    (s.mark markers).enter name = (s.enter name).map fun s => s.mark markers := by
  have hnames : (s.mark markers).modeNames = s.modeNames := rfl
  simp only [enter, hnames]
  split <;> rfl

theorem mark_exit : (s.mark markers).exit = s.exit.map fun s => s.mark markers := by
  have hstack : (s.mark markers).stack = s.stack := rfl
  simp only [exit, hstack]
  split <;> rfl

end State

/-- The same outcome with other stop markers in the state. -/
def Outcome.mark (o : Outcome ε) (markers : List Text) : Outcome ε := (o.1, o.2.mark markers)

open State

variable {s : State ε} {markers : List Text}

theorem State.mark_emitAll (pieces : List (TokenType × Nat)) (s : State ε) :
    (s.mark markers).emitAll pieces = Outcome.mark (s.emitAll pieces) markers := by
  induction pieces generalizing s with
  | nil => rfl
  | cons piece pieces ih =>
    simp only [emitAll, mark_emit]
    cases s.emit piece.1 piece.2 with
    | error f => rfl
    | ok s' => exact ih s'

theorem Procedure.run_mark {p : Procedure ε} (hp : p.Plain) (s : State ε) :
    p.run (s.mark markers) = Outcome.mark (p.run s) markers := by
  induction p generalizing s with
  | done | fail => rfl
  | inspect next ih => exact ih _ (hp _) s
  | push token next ih => exact ih hp (s.push token)
  | consume n next ih =>
    simp only [run, mark_consume]
    cases s.consume n with
    | error f => rfl
    | ok p => exact ih p.1 (hp p.1) p.2
  | emit kind n next ih =>
    simp only [run, mark_emit]
    cases s.emit kind n with
    | error f => rfl
    | ok s' => exact ih hp s'
  | scan scanner next ih =>
    simp only [run, State.scan, mark_text, mark_accept]
    exact ih _ (hp _) _
  | scanBytes kind n next ih =>
    simp only [run, mark_scanBytes]
    cases s.scanBytes kind n with
    | error f => rfl
    | ok p => exact ih p.1 (hp p.1) p.2
  | addScore delta next ih => exact ih hp (s.addScore delta)
  | enter mode next ih =>
    simp only [run, mark_enter]
    cases s.enter mode with
    | error e => exact ih (some e) (hp _) s
    | ok s' => exact ih none (hp none) s'
  | exit next ih =>
    simp only [run, mark_exit]
    cases s.exit with
    | error e => exact ih (some e) (hp _) s
    | ok s' => exact ih none (hp none) s'
  | modifyExtension f next ih => exact ih hp { s with extension := s.extension.map f }
  | intervene i next => exact hp.1.elim

namespace Action

mutual

theorem exec_mark (captures : Pattern.Captures) : ∀ {action : Action ε}, action.Plain →
    ∀ s : State ε,
      exec captures action (s.mark markers) = Outcome.mark (exec captures action s) markers
  | emit kinds, _, s => by
    simp only [exec]
    split
    · rfl
    · rfl
    · exact mark_emitAll _ s
  | score _, _, _ => rfl
  | enter mode, _, s => by
    simp only [exec, mark_enter]
    cases s.enter mode <;> rfl
  | exit, _, s => by
    simp only [exec, mark_exit]
    cases s.exit <;> rfl
  | sequence actions, .sequence h, s => by
    simpa only [exec] using execAll_mark captures false h s
  | custom procedure, .custom h, s => by
    simpa only [exec] using Procedure.run_mark (h captures) s

theorem execAll_mark (captures : Pattern.Captures) (fired : Bool) :
    ∀ {actions : List (Action ε)}, (∀ action ∈ actions, action.Plain) → ∀ s : State ε,
      execAll captures fired actions (s.mark markers)
        = Outcome.mark (execAll captures fired actions s) markers
  | [], _, _ => rfl
  | action :: actions, h, s => by
    obtain ⟨hfirst, hmore⟩ := List.forall_mem_cons.1 h
    have haction := exec_mark captures hfirst s
    simp only [execAll, haction]
    obtain ⟨result, s'⟩ := exec captures action s
    cases result with
    | error e => rfl
    | ok fired' => exact execAll_mark captures fired' hmore s'

end

end Action

theorem CompiledRule.exec_mark {r : CompiledRule ε} (hr : r.Plain) (s : State ε) :
    r.exec (s.mark markers) = Outcome.mark (r.exec s) markers := by
  cases r with
  | pattern p action =>
    simp only [exec, mark_text]
    split
    · exact Action.exec_mark _ hr s
    · rfl
  | procedure p => exact Procedure.run_mark hr s

namespace Engine

theorem tryRules_mark (mode : String) (index : Nat) {rules : List (CompiledRule ε)}
    (hrules : ∀ r ∈ rules, r.Plain) (s : State ε) : tryRules mode index rules (s.mark markers)
      = ((tryRules mode index rules s).1, (tryRules mode index rules s).2.mark markers) := by
  induction rules generalizing index s with
  | nil => rfl
  | cons rule rules ih =>
    obtain ⟨hfirst, hmore⟩ := List.forall_mem_cons.1 hrules
    have hrule : rule.exec { s.mark markers with rule := index }
        = Outcome.mark (rule.exec { s with rule := index }) markers :=
      CompiledRule.exec_mark hfirst { s with rule := index }
    simp only [tryRules, hrule]
    obtain ⟨result, s'⟩ := rule.exec { s with rule := index }
    cases result with
    | error i => cases i <;> rfl
    | ok fired =>
      cases fired with
      | false => exact ih (index + 1) hmore s'
      | true => rfl

/-- The marker at which a pass over the state would end the scan. -/
def markerAt? (s : State ε) : Option Text :=
  if s.text.isEmpty then none else s.markers.find? (·.isPrefixOf s.text)

/-- The state after a pass that has found a marker. -/
def cut (s : State ε) (marker : Text) : State ε :=
  { s with text := s.text.drop marker.length }.push ⟨some .stopLexer, marker⟩

variable {modes : List (CompiledMode ε)} {s s' t u : State ε}

/-- A pass that begins at a marker runs no rule. -/
theorem pass_of_marker {marker : Text} (h : markerAt? s = some marker)
    (modes : List (CompiledMode ε)) : pass modes s = (.ok none, cut s marker) := by
  unfold markerAt? at h
  split at h
  · cases h
  · next hne => simp only [pass, if_neg hne, h, cut]

/-- Where no marker is found a pass over plain rules does not depend on the markers. -/
theorem pass_mark (hplain : Plain modes) (h : markerAt? s = none)
    (h' : markerAt? (s.mark markers) = none) : pass modes (s.mark markers)
      = ((pass modes s).1, (pass modes s).2.mark markers) := by
  unfold markerAt? at h h'
  by_cases hnil : s.text.isEmpty = true
  · have hnil' : (s.mark markers).text.isEmpty = true := hnil
    rw [pass, pass, if_pos hnil, if_pos hnil']
    rfl
  · have hnil' : ¬ (s.mark markers).text.isEmpty = true := hnil
    have hmode : (s.mark markers).mode = s.mode := rfl
    rw [if_neg hnil] at h
    rw [if_neg hnil'] at h'
    simp only [pass, if_neg hnil, if_neg hnil', h, h', hmode]
    split
    · next mode hmode => exact tryRules_mark _ _ (hplain mode (List.mem_of_getElem? hmode)) s
    · rfl

/-- The number of idle passes in a row after one more pass. -/
def idleAfter (idle : Nat) (s s' : State ε) : Nat :=
  if s'.text.byteSize ≠ s.text.byteSize then 0 else idle + 1

theorem fillAfter_eq (modes : List (CompiledMode ε)) (idle : Nat) (s : State ε) :
    fillAfter modes idle s =
      match pass modes s with
      | (.error f, s') => (.error f, s')
      | (.ok e?, s') =>
        if s'.queue.isEmpty = false then (.ok e?, s')
        else if idleAfter idle s s' < maxIdlePasses then fillAfter modes (idleAfter idle s s') s'
        else
          (.ok (some (.noProgress (idle + 1))), s'.fail (.noProgress (idle + 1)) s'.modeName) := by
  rw [fillAfter]
  split
  · next h => rw [h]
  · next e? s' h =>
    rw [h]
    by_cases hq : s'.queue.isEmpty = false
    · simp only [hq, Bool.not_false, if_true]
    · have hnot : ¬ (!s'.queue.isEmpty) = true := by simpa using hq
      simp only [if_neg hnot, if_neg hq, idleAfter]
      split
      · next hmoved =>
        have hzero : 0 < maxIdlePasses := by decide
        rw [if_pos hzero]
      · rfl

/-- A request whose passes have queued nothing so far makes its next pass in the state `u`, after
`n` idle passes in a row. -/
inductive Passes (modes : List (CompiledMode ε)) : Nat → State ε → Nat → State ε → Prop
  | refl (idle : Nat) (s : State ε) : Passes modes idle s idle s
  | pass {idle n : Nat} {s s' u : State ε} {e? : Option RuleError}
    (hpass : Engine.pass modes s = (.ok e?, s')) (hq : s'.queue.isEmpty = true)
    (hidle : idleAfter idle s s' < maxIdlePasses)
    (hmore : Passes modes (idleAfter idle s s') s' n u) : Passes modes idle s n u

theorem Passes.fillAfter_eq {idle n : Nat} (h : Passes modes idle s n u) :
    fillAfter modes idle s = fillAfter modes n u := by
  induction h with
  | refl => rfl
  | @pass idle n s s' u e? hpass hq hidle _ ih =>
    have hempty : ¬ s'.queue.isEmpty = false := by simp [hq]
    rw [Engine.fillAfter_eq, hpass]
    simp only [if_neg hempty, if_pos hidle]
    exact ih

theorem Passes.kept {P : State ε → Prop} (hP : Kept P)
    (hrule : ∀ {s : State ε} (rule : Nat), P s → P { s with rule })
    (hmodes : Allows (KeptBy P) modes) {idle n : Nat} (h : Passes modes idle s n u) (hs : P s) :
    P u := by
  induction h with
  | refl => exact hs
  | @pass _ _ s _ _ _ hpass _ _ _ ih =>
    have hkept : P (Engine.pass modes s).2 := pass_kept hP hrule hmodes hs
    rw [hpass] at hkept
    exact ih hkept

theorem Passes.frame_eq (hplain : Plain modes) {idle n : Nat} (h : Passes modes idle s n u) :
    u.frame = s.frame := h.kept (kept_frame s.frame) (fun _ hs => hs) hplain.allows rfl

theorem Passes.markers_eq (hplain : Plain modes) {idle n : Nat} (h : Passes modes idle s n u) :
    u.markers = s.markers := congrArg State.Frame.markers (h.frame_eq hplain)

/-- Induction over the passes of a request: what holds of a state whenever it holds behind a pass
that is followed by another one holds of every state. -/
theorem passes_induction (modes : List (CompiledMode ε)) {P : Nat → State ε → Prop}
    (step : ∀ idle s, (∀ e? s', pass modes s = (.ok e?, s') → s'.queue.isEmpty = true →
      idleAfter idle s s' < maxIdlePasses → P (idleAfter idle s s') s') → P idle s)
    (idle : Nat) (s : State ε) : P idle s := by
  induction idle, s using fillAfter.induct modes with
  | case1 idle s f s' hp =>
    apply step
    intro e? t hpass
    rw [hp] at hpass
    cases hpass
  | case2 idle s e' s' hp hfull =>
    apply step
    intro e? t hpass hq
    rw [hp] at hpass
    cases hpass
    simp [hq] at hfull
  | case3 idle s e' s' hp _ hmoved ih =>
    apply step
    intro e? t hpass _ _
    rw [hp] at hpass
    cases hpass
    simpa only [idleAfter, if_pos hmoved] using ih
  | case4 idle s e' s' hp _ hsame _ ih =>
    apply step
    intro e? t hpass _ _
    rw [hp] at hpass
    cases hpass
    simpa only [idleAfter, if_neg hsame] using ih
  | case5 idle s e' s' hp _ hsame hlast =>
    apply step
    intro e? t hpass _ hidle
    rw [hp] at hpass
    cases hpass
    rw [idleAfter, if_neg hsame] at hidle
    exact absurd hidle hlast

/-- A scan with markers makes the same passes as one without, unless one of them begins at a
marker. -/
theorem fillAfter_unmarked (hplain : Plain modes) (idle : Nat) (s : State ε) :
    fillAfter modes idle (s.mark [])
        = ((fillAfter modes idle s).1, (fillAfter modes idle s).2.mark []) ∨
      ∃ n u marker, Passes modes idle s n u ∧ markerAt? u = some marker := by
  induction idle, s using passes_induction modes with
  | step idle s ih =>
    cases hmarker : markerAt? s with
    | some marker => exact .inr ⟨idle, s, marker, .refl idle s, hmarker⟩
    | none =>
      have hunmarked : markerAt? (s.mark []) = none := by
        unfold markerAt?
        split <;> rfl
      have hsame := pass_mark hplain hmarker hunmarked
      rw [fillAfter_eq modes idle s, fillAfter_eq modes idle (s.mark []), hsame]
      cases hpass : pass modes s with
      | mk answer s' =>
        cases answer with
        | error f => exact .inl rfl
        | ok e? =>
          have hidle : idleAfter idle (s.mark []) (s'.mark []) = idleAfter idle s s' := rfl
          simp only [hidle, mark_queue]
          by_cases hfull : s'.queue.isEmpty = false
          · left
            simp only [if_pos hfull]
          · by_cases hmore : idleAfter idle s s' < maxIdlePasses
            · have hempty : s'.queue.isEmpty = true := by simpa using hfull
              simp only [if_neg hfull, if_pos hmore]
              rcases ih e? s' hpass hempty hmore with heq | ⟨n, u, marker, hpasses, hu⟩
              · exact .inl heq
              · exact .inr ⟨n, u, marker, .pass hpass hempty hmore hpasses, hu⟩
            · left
              simp only [if_neg hfull, if_neg hmore]
              rfl

/-- A pass of the next request begins in the state `u`. -/
def PassBegins (e : Engine ε) (u : State ε) : Prop :=
  e.state.queue.toList = [] ∧ ∃ n, Passes e.modes 0 e.state n u

/-- The same engine without stop markers. -/
def unmarked (e : Engine ε) : Engine ε := { e with state := e.state.mark [] }

variable {e e' : Engine ε} {marker : Text} {token : Token}

theorem Passes.queue_eq {idle n : Nat} (h : Passes modes idle s n u)
    (hs : s.queue.toList = []) : u.queue.toList = [] := by
  induction h with
  | refl => exact hs
  | pass _ hq _ _ ih => exact ih (Queue.isEmpty_iff.1 hq)

theorem isStop_stopLexer (text : Text) : (⟨some .stopLexer, text⟩ : Token).isStop = true := by
  have hkind : TokenType.stopLexer.IsA .stop := by decide
  simp [Token.isStop, Token.isA, hkind]

/-- A request one of whose passes begins at a marker takes the marker and ends the scan. -/
theorem nextToken_of_marker (hplain : Plain e.modes) (hlive : e.state.stop = none)
    (hu : e.PassBegins u) (hmarker : markerAt? u = some marker) : ∃ queue, e.nextToken =
      (.ok ⟨some .stopLexer, marker⟩, { e with state := { u with
        text := u.text.drop marker.length, queue, stop := some ⟨some .stopLexer, marker⟩ } }) := by
  obtain ⟨hq, n, hpasses⟩ := hu
  have hcut : (cut u marker).queue.toList = [⟨some .stopLexer, marker⟩] := by
    have hempty : u.queue.toList = [] := hpasses.queue_eq hq
    simp [cut, State.push, hempty]
  have hfull : (cut u marker).queue.isEmpty = false := by
    rw [← Bool.not_eq_true, Queue.isEmpty_iff, hcut]
    exact List.cons_ne_nil _ _
  have hfill : fill e.modes e.state = (.ok none, cut u marker) := by
    rw [fill, if_pos (Queue.isEmpty_iff.2 hq), hpasses.fillAfter_eq, fillAfter_eq,
      pass_of_marker hmarker]
    simp only [if_pos hfull]
  obtain ⟨queue, -, hnext⟩ := nextToken_of_fill hplain hlive hfill hcut
  rw [if_pos (isStop_stopLexer marker)] at hnext
  exact ⟨queue, hnext⟩

theorem dequeue_mark (s : State ε) (markers : List Text) :
    dequeue (s.mark markers) = ((dequeue s).1, (dequeue s).2.mark markers) := by
  cases hpop : s.queue.pop? with
  | none =>
    have hpop' : (s.mark markers).queue.pop? = none := hpop
    simp only [dequeue, hpop, hpop']
    split <;> rfl
  | some p =>
    have hpop' : (s.mark markers).queue.pop? = some p := hpop
    simp only [dequeue, hpop, hpop']
    split <;> rfl

/-- Markers do not change a request, unless one of its passes begins at a marker. -/
theorem nextToken_unmarked (hplain : Plain e.modes) (hlive : e.state.stop = none) :
    e.unmarked.nextToken = (e.nextToken.1, e.nextToken.2.unmarked) ∨
      ∃ u marker, e.PassBegins u ∧ markerAt? u = some marker := by
  have hfilled : fill e.modes (e.state.mark [])
        = ((fill e.modes e.state).1, (fill e.modes e.state).2.mark []) ∨
      ∃ u marker, e.PassBegins u ∧ markerAt? u = some marker := by
    unfold fill
    by_cases hq : e.state.queue.isEmpty = true
    · have hq' : (e.state.mark []).queue.isEmpty = true := hq
      rw [if_pos hq, if_pos hq']
      rcases fillAfter_unmarked hplain 0 e.state with heq | ⟨n, u, marker, hpasses, hu⟩
      · exact .inl heq
      · exact .inr ⟨u, marker, ⟨Queue.isEmpty_iff.1 hq, n, hpasses⟩, hu⟩
    · have hq' : ¬ (e.state.mark []).queue.isEmpty = true := hq
      rw [if_neg hq, if_neg hq']
      exact .inl rfl
  rcases hfilled with hfill | hmarker
  · left
    have hlive' : e.unmarked.state.stop = none := hlive
    simp only [nextToken, hlive, hlive']
    rw [show e.unmarked.modes = e.modes from rfl, show e.unmarked.state = e.state.mark [] from rfl,
      hfill]
    obtain ⟨answer, s⟩ := fill e.modes e.state
    cases answer with
    | error f => rfl
    | ok e? =>
      simp only [dequeue_mark]
      rfl
  · exact .inr hmarker

variable {n : Nat} {r : Pulled ε}

/-- A scan has not ended as long as no stop has been returned. -/
theorem live_of_pulls (hplain : Plain e.modes) (hlive : e.state.stop = none)
    (hr : e.pulls n = .ok r) (hts : ∀ token ∈ r.tokens, token.isStop = false) :
    r.engine.state.stop = none := by
  have hkept := pulls_induction
    (I := fun ts _ (e : Engine ε) => (∀ token ∈ ts, token.isStop = false) → e.state.stop = none)
    (fun ts _ e₁ token e₂ hsame _ hlive hnext hall => by
      rw [← hsame] at hplain
      obtain ⟨s, queue, -, -, rfl⟩ := nextToken_cases hplain hlive hnext
      have htoken : token.isStop = false := hall token (by simp)
      simp [htoken])
    [] [] rfl (fun _ => hlive) hr
  exact hkept (by simpa using hts)

/-- As long as no stop is returned the same tokens are returned without markers, and the scan goes
through the same states. -/
theorem pulls_unmarked (hplain : Plain e.modes) (hlive : e.state.stop = none)
    (hr : e.pulls n = .ok r) (hts : ∀ token ∈ r.tokens, token.isStop = false) :
    ∃ r', e.unmarked.pulls n = .ok r' ∧ r'.tokens = r.tokens ∧ r'.engine = r.engine.unmarked := by
  induction n generalizing e r with
  | zero =>
    cases hr
    exact ⟨⟨[], [], e.unmarked⟩, rfl, rfl, rfl⟩
  | succ n ih =>
    have hnot : e.state.isHalted = false := by simp [State.isHalted, hlive]
    have hnot' : e.unmarked.state.isHalted = false := hnot
    unfold pulls at hr
    cases hnext : e.nextToken with
    | mk answer e₁ =>
      cases answer with
      | error f => rw [hnext] at hr; cases hr
      | ok token =>
        simp only [hnext, hnot] at hr
        cases hrest : e₁.pulls n with
        | error f => rw [hrest] at hr; cases hr
        | ok rest =>
          rw [hrest] at hr
          cases hr
          have htoken : token.isStop = false := hts token List.mem_cons_self
          obtain ⟨hplain₁, hlive₁⟩ : Plain e₁.modes ∧ e₁.state.stop = none := by
            obtain ⟨s, queue, -, -, rfl⟩ := nextToken_cases hplain hlive hnext
            exact ⟨hplain, by simp [htoken]⟩
          obtain ⟨rest', hrest', htokens, hengine⟩ := ih hplain₁ hlive₁ hrest
            fun t ht => hts t (List.mem_cons_of_mem _ ht)
          rcases nextToken_unmarked hplain hlive with hsame | ⟨u, marker, hu, hmarker⟩
          · rw [hnext] at hsame
            refine ⟨⟨token :: rest'.tokens, e.unmarked.reports?.toList ++ rest'.errors,
              rest'.engine⟩, ?_, by simp [htokens], hengine⟩
            simp only [pulls, hsame, hrest', hnot']
            rfl
          · obtain ⟨queue, hstop⟩ := nextToken_of_marker hplain hlive hu hmarker
            rw [hnext] at hstop
            cases hstop
            rw [isStop_stopLexer] at htoken
            cases htoken

/-- Of the markers that are not empty, `m` is the first one in the list with which the text
begins. -/
def FirstMarker (markers : List Text) (t m : Text) : Prop :=
  m ≠ [] ∧ m <+: t ∧ ∃ before after, markers = before ++ m :: after ∧
    ∀ m' ∈ before, m' ≠ [] → ¬ m' <+: t

/-- A pass finds the first marker with which the text begins. -/
theorem markerAt?_eq_some_iff {all : List Text} {m : Text}
    (hs : s.markers = all.filter (!·.isEmpty)) :
    markerAt? s = some m ↔ FirstMarker all s.text m := by
  have hfind : s.markers.find? (·.isPrefixOf s.text) = some m ↔ FirstMarker all s.text m := by
    rw [hs, List.find?_filter, List.find?_eq_some_iff_append]
    simp [FirstMarker, and_assoc, Decidable.or_iff_not_imp_left]
  unfold markerAt?
  split
  · next hnil =>
    constructor
    · intro h
      cases h
    · rintro ⟨hne, hprefix, -⟩
      rw [List.isEmpty_iff.1 hnil] at hprefix
      exact absurd (List.prefix_nil.1 hprefix) hne
  · exact hfind

/-- Stop markers only cut a scan with plain rules short. As long as no stop has been returned, a
scan with markers returns the tokens of the scan without them and is in the same state, apart from
the markers. The next answers are the same too, unless a pass begins at a marker. A pass that begins
at the first marker of the list with which the text begins runs no rule, whatever the modes are, and
the request takes the marker off the text, returns it as a stop and changes nothing else. -/
theorem markers_only_cut_short {g : Grammar ε} (hg : g.Plain) {text : Text}
    {start bare : Engine ε} (hstart : Engine.start g text = .ok start)
    (hbare : bare = start ∨ ∃ x, bare = start.withExtension x) (markers : List Text)
    (hr : (bare.addMarkers markers).pulls n = .ok r)
    (hts : ∀ token ∈ r.tokens, token.isStop = false) :
    ∃ r', bare.pulls n = .ok r' ∧ r'.tokens = r.tokens ∧ r'.engine = r.engine.unmarked ∧
      (r'.engine.nextToken = (r.engine.nextToken.1, r.engine.nextToken.2.unmarked) ∨
        ∃ u m, r.engine.PassBegins u ∧ FirstMarker markers u.text m) ∧
      ∀ u m, r.engine.PassBegins u → FirstMarker markers u.text m →
        (∀ modes, pass modes u = (.ok none, cut u m)) ∧
        ∃ rest queue, u.text = m ++ rest ∧ r.engine.nextToken = (.ok ⟨some .stopLexer, m⟩,
          { r.engine with state := { u with
              text := rest, queue, stop := some ⟨some .stopLexer, m⟩ } }) := by
  obtain ⟨hcompile, hstate⟩ := start_cases hstart
  have hfresh : bare.modes = start.modes ∧ bare.state.stop = none ∧ bare.state.markers = [] := by
    rcases hbare with rfl | ⟨x, rfl⟩ <;> simp [withExtension, hstate]
  obtain ⟨hmodes, hlive, hmarkers⟩ := hfresh
  have hplain : Plain (bare.addMarkers markers).modes := hmodes ▸ hg.compile hcompile
  have hunmarked : (bare.addMarkers markers).unmarked = bare := by
    have hsame : (bare.state.addMarkers markers).mark [] = bare.state := by
      rw [State.mark, State.addMarkers, ← hmarkers]
    rw [unmarked, addMarkers, hsame]
  have hlisted : (bare.addMarkers markers).state.markers = markers.filter (!·.isEmpty) := by
    simp [addMarkers, State.addMarkers, hmarkers]
  have hlive' : (bare.addMarkers markers).state.stop = none := hlive
  have hend := live_of_pulls hplain hlive' hr hts
  have hplain' : Plain r.engine.modes := modes_of_pulls hr ▸ hplain
  obtain ⟨r', hr', htokens, hengine⟩ := pulls_unmarked hplain hlive' hr hts
  rw [hunmarked] at hr'
  -- The markers of every state in which a pass begins are those of the list.
  have hfirst : ∀ u m, r.engine.PassBegins u →
      (markerAt? u = some m ↔ FirstMarker markers u.text m) := by
    intro u m hu
    obtain ⟨-, k, hpasses⟩ := hu
    have hkept : r.engine.state.markers = (bare.addMarkers markers).state.markers :=
      congrArg State.Frame.markers (frame_of_pulls hplain hr)
    apply markerAt?_eq_some_iff
    rw [hpasses.markers_eq hplain', hkept, hlisted]
  refine ⟨r', hr', htokens, hengine, ?_, ?_⟩
  · rw [hengine]
    rcases nextToken_unmarked hplain' hend with hsame | ⟨u, m, hu, hm⟩
    · exact .inl hsame
    · exact .inr ⟨u, m, hu, (hfirst u m hu).1 hm⟩
  · intro u m hu hm
    have hmarker := (hfirst u m hu).2 hm
    refine ⟨pass_of_marker hmarker, ?_⟩
    obtain ⟨rest, hrest⟩ := hm.2.1
    obtain ⟨queue, hnext⟩ := nextToken_of_marker hplain' hend hu hmarker
    rw [← hrest, List.drop_left] at hnext
    exact ⟨rest, queue, hrest.symm, hnext⟩

/-- Of two markers with which the rest begins the one listed first ends the scan, and an empty
marker in front of them does nothing. -/
theorem markers_only_cut_short_overlapping : ∃ start r rest,
    Engine.start (Language.C.grammar : Grammar Unit) "a]]é".toList = .ok start ∧
    (start.addMarkers [[], "]]".toList, "]".toList]).pulls 1 = .ok r ∧
    r.tokens = [⟨some .codeIdentifier, ['a']⟩] ∧
    (∃ r', start.pulls 1 = .ok r' ∧ r'.tokens = r.tokens) ∧
    r.engine.nextToken.1 = .ok ⟨some .stopLexer, "]]".toList⟩ ∧
    r.engine.nextToken.2.state.text = rest ∧ r.engine.state.text = "]]".toList ++ rest := by
  obtain ⟨start, hstart, r, hr, htokens, hq, htext⟩ : ∃ start,
      Engine.start (Language.C.grammar : Grammar Unit) "a]]é".toList = .ok start ∧
      ∃ r, (start.addMarkers [[], "]]".toList, "]".toList]).pulls 1 = .ok r ∧
        r.tokens = [⟨some .codeIdentifier, ['a']⟩] ∧ r.engine.state.queue.toList = [] ∧
        r.engine.state.text = "]]é".toList := by
    decide +kernel
  have hts : ∀ token ∈ r.tokens, token.isStop = false := by
    rw [htokens]
    decide
  obtain ⟨r', hr', hsame, -, -, hcut⟩ :=
    markers_only_cut_short Language.C.plain_grammar hstart (.inl rfl)
      [[], "]]".toList, "]".toList] hr hts
  have hbegins : r.engine.PassBegins r.engine.state := ⟨hq, 0, .refl 0 _⟩
  have hfirst : FirstMarker [[], "]]".toList, "]".toList] r.engine.state.text "]]".toList := by
    rw [htext]
    exact ⟨by decide, ⟨['é'], rfl⟩, [[]], [[']']], rfl, by simp⟩
  obtain ⟨-, rest, queue, hrest, hnext⟩ := hcut _ _ hbegins hfirst
  exact ⟨start, r, rest, hstart, hr, htokens, ⟨r', hr', hsame⟩, by rw [hnext], by rw [hnext],
    hrest⟩

/-- A marker need not be in front of the text with which a request begins. A rule that requests a
token itself can tell whether there is a marker, so that other tokens are returned. -/
theorem markers_seen_by_rules :
    let scan (p : Procedure Unit) (text : String) (markers : List Text) :
        Option (List Token × Token) :=
      ((Grammar.ofProcedure p).scan text.toList markers 2).toOption.map fun r =>
        (r.answers.map Prod.fst, r.stop)
    let skip : Procedure Unit := .consume 1 fun _ => .done true
    scan skip "xb" [] = some ([], ⟨some .stopEndOfString, []⟩) ∧
      scan skip "xb" [['b']] = some ([], ⟨some .stopLexer, ['b']⟩) ∧ ¬ ['b'] <+: "xb".toList ∧
      scan (asking 2) "ab" [] = some ([⟨some .code, ['n']⟩], ⟨some .stopEndOfString, []⟩) ∧
      scan (asking 2) "ab" [['b']] = some ([⟨some .code, ['s']⟩], ⟨some .stopLexer, ['b']⟩) := by
  decide +kernel

end Engine

end ModalLexer
