import ModalLexer.Proofs.Grammar.Compilation
import ModalLexer.Proofs.Rule.Choice

/-! # Scans as sequences of steps

In a scan without stop markers a pass takes the step of the first rule that does not decline. A
sequence of steps up to the end of the text determines a run, and an invariant of the tokens and the
situation that always admits a step holds after any number of requests.
-/

namespace ModalLexer

variable {ε : Type}

/-- Tokens that are not empty have at least one byte each. -/
theorem Token.length_le_byteSize_join {ts : List Token}
    (hts : ∀ token ∈ ts, token.text ≠ []) : ts.length ≤ (Token.join ts).byteSize := by
  induction ts with
  | nil => simp
  | cons token ts ih =>
    have hmore := ih fun token ht => hts token (List.mem_cons_of_mem _ ht)
    have htoken := Text.byteSize_pos (hts token List.mem_cons_self)
    rw [Token.join_cons, Text.byteSize_append, List.length_cons]
    omega

namespace Grammar

/-- The step that the grammar takes in a situation, with the situation behind it. -/
def StepsTo (g : Grammar ε) (c : Situation) (st : Step) (c' : Situation) : Prop :=
  st.Sound c.text ∧ c.perform st = some c' ∧
    ∃ modes mode, g.modes? = some modes ∧ modes[c.mode]? = some mode ∧
      Selects (fun r => r.Does (modes.map (·.name)) c.text) mode.rules st

/-- Steps in a row, with the tokens that they cut off the text. -/
inductive Lexes (g : Grammar ε) : Situation → List Token → Situation → Prop
  | refl (c : Situation) : Lexes g c [] c
  | step {c c' c'' : Situation} {st : Step} {ts : List Token} (h : g.StepsTo c st c')
    (hmore : Lexes g c' ts c'') : Lexes g c (st.tokens ++ ts) c''

variable {g : Grammar ε} {c c' c'' : Situation} {st : Step} {ts us : List Token}

theorem Lexes.trans (h : g.Lexes c ts c') (h' : g.Lexes c' us c'') :
    g.Lexes c (ts ++ us) c'' := by
  induction h with
  | refl => exact h'
  | step hstep _ ih => rw [List.append_assoc]; exact .step hstep (ih h')

theorem Lexes.one (h : g.StepsTo c st c') : g.Lexes c st.tokens c' := by
  simpa using Lexes.step h (.refl c')

theorem StepsTo.text (h : g.StepsTo c st c') : c'.text = st.rest := by
  have hperform := h.2.1
  simp only [Situation.perform, Situation.moved] at hperform
  split at hperform
  · cases hperform; rfl
  · cases hperform; rfl
  · split at hperform
    · cases hperform; rfl
    · cases hperform

theorem StepsTo.length_lt (h : g.StepsTo c st c') : c'.text.length < c.text.length := by
  have hsound := h.1
  obtain ⟨token, htoken⟩ := List.exists_mem_of_ne_nil _ hsound.some_token
  have hlen : token.text.length ≤ (Token.join st.tokens).length := by
    obtain ⟨front, back, heq⟩ := List.append_of_mem htoken
    rw [heq]
    simp
    omega
  have hpos := List.length_pos_iff.2 (hsound.not_empty token htoken)
  rw [h.text, ← hsound.text, List.length_append]
  omega

theorem StepsTo.addScore (h : g.StepsTo c st c') (delta : Int64) :
    g.StepsTo { c with score := c.score + delta } st { c' with score := c'.score + delta } := by
  obtain ⟨hsound, hperform, hmode⟩ := h
  refine ⟨hsound, ?_, hmode⟩
  have hcomm : c.score + delta + st.score = c.score + st.score + delta := by ac_rfl
  simp only [Situation.perform, Situation.moved, hcomm] at hperform ⊢
  split at hperform
  · cases hperform; rfl
  · cases hperform; rfl
  · split at hperform
    · cases hperform; rfl
    · cases hperform

theorem Lexes.addScore (h : g.Lexes c ts c') (delta : Int64) :
    g.Lexes { c with score := c.score + delta } ts { c' with score := c'.score + delta } := by
  induction h with
  | refl => exact .refl _
  | step hstep _ ih => exact .step (hstep.addScore delta) ih

/-- The tokens and the text that is left are the whole text. -/
theorem Lexes.sound (h : g.Lexes c ts c') : Token.join ts ++ c'.text = c.text ∧
    ∀ token ∈ ts, token.text ≠ [] ∧ token.isStop = false := by
  induction h with
  | refl => simp
  | step hstep _ ih =>
    have hsound := hstep.1
    refine ⟨?_, fun token htoken => ?_⟩
    · rw [Token.join_append, List.append_assoc, ih.1, hstep.text, hsound.text]
    · rcases List.mem_append.1 htoken with hmem | hmem
      · exact ⟨hsound.not_empty token hmem, hsound.not_stop token hmem⟩
      · exact ih.2 token hmem

theorem Lexes.length_le (h : g.Lexes c ts c') : ts.length ≤ c.text.byteSize := by
  obtain ⟨htext, hall⟩ := h.sound
  have hjoin := Token.length_le_byteSize_join fun token ht => (hall token ht).1
  rw [← htext, Text.byteSize_append]
  omega

theorem StepsTo.length_add_byteSize_le (h : g.StepsTo c st c') :
    st.tokens.length + c'.text.byteSize ≤ c.text.byteSize := by
  have hjoin := Token.length_le_byteSize_join h.1.not_empty
  rw [← h.1.text, h.text, Text.byteSize_append]
  omega

/-- What the tokens so far and the situation satisfy at every time, with a step to go on as long
as there is text. -/
def Keeps (g : Grammar ε) (I : List Token → Situation → Prop) : Prop :=
  ∀ ts c, I ts c → c.text ≠ [] → ∃ st c', g.StepsTo c st c' ∧ I (ts ++ st.tokens) c'

/-- Under an invariant steps lead to the end of the text. -/
theorem Keeps.exists_lexes {I : List Token → Situation → Prop} (hI : g.Keeps I) (ts : List Token)
    {c : Situation} (h : I ts c) :
    ∃ us c', g.Lexes c us c' ∧ c'.text = [] ∧ I (ts ++ us) c' := by
  by_cases hnil : c.text = []
  · exact ⟨[], c, .refl c, hnil, by simpa using h⟩
  · obtain ⟨st, c', hstep, h'⟩ := hI ts c h hnil
    have hshort := hstep.length_lt
    obtain ⟨us, c'', hlexes, hend, h''⟩ := hI.exists_lexes _ h'
    exact ⟨st.tokens ++ us, c'', .step hstep hlexes, hend, by simpa using h''⟩
termination_by c.text.length

end Grammar

namespace Engine

/-- A live scan with plain rules and without stop markers, in the given situation and with the given
tokens queued. -/
structure At (g : Grammar ε) (c : Situation) (queued : List Token) (e : Engine ε) : Prop where
  modes : g.compile = .ok e.modes
  plain : Plain e.modes
  names : e.state.modeNames = e.modes.map (·.name)
  live : e.state.stop = none
  unmarked : e.state.markers = []
  situation : e.state.situation = c
  queue : e.state.queue.toList = queued

/-- The end of the text is a stop without a text of its own. -/
def endOfText : Token := ⟨some .stopEndOfString, []⟩

variable {g : Grammar ε} {c c' : Situation} {st : Step} {e e' : Engine ε} {s s' : State ε}
  {token : Token} {queued : List Token}

theorem tryRules_of_selects {names : List String} {rules : List (Rule ε)}
    {compiled : List (CompiledRule ε)} {grammar mode : String} (index : Nat) {number : Nat}
    (hsel : Selects (fun r => r.Does names s.text) rules st)
    (hrules : Grammar.compileRules grammar mode number rules = .ok compiled)
    (hnames : s.modeNames = names) (hperform : s.situation.perform st = some c) :
    ∃ s', tryRules mode index compiled s = (.ok none, s') ∧ s'.situation = c ∧
      s'.queue.toList = s.queue.toList ++ st.tokens := by
  generalize ht : s.text = t at hsel
  induction hsel generalizing compiled index number s with
  | here hdoes =>
    obtain ⟨r, hr, hdoes⟩ := hdoes
    obtain ⟨more, -, rfl⟩ := Grammar.compileRules_cons hrules hr
    obtain ⟨s', hs', hsituation, hq⟩ := hdoes { s with rule := index } c ht hnames hperform
    exact ⟨s', by simp only [tryRules, hs'], hsituation, hq⟩
  | later hdoes _ ih =>
    obtain ⟨r, hr, hdoes⟩ := hdoes
    obtain ⟨more, hmore, rfl⟩ := Grammar.compileRules_cons hrules hr
    have hdeclines : r.exec { s with rule := index } = (.ok false, { s with rule := index }) :=
      hdoes _ ht
    obtain ⟨s', hs', hsituation, hq⟩ : ∃ s',
        tryRules mode (index + 1) more { s with rule := index } = (.ok none, s') ∧
        s'.situation = c ∧ s'.queue.toList = s.queue.toList ++ _ := ih _ hmore hnames hperform ht
    exact ⟨s', by simp only [tryRules, hdeclines, hs'], hsituation, hq⟩

/-- A pass that queues a token is the last one of a request. -/
theorem fill_of_pass {modes : List (CompiledMode ε)} {e? : Option RuleError}
    (hq : s.queue.toList = []) (hpass : pass modes s = (.ok e?, s'))
    (hq' : s'.queue.toList ≠ []) : fill modes s = (.ok e?, s') := by
  have hempty : s.queue.isEmpty = true := Queue.isEmpty_iff.2 hq
  have hfull : (!s'.queue.isEmpty) = true := by
    rw [Bool.not_eq_true', ← Bool.not_eq_true, Queue.isEmpty_iff]
    exact hq'
  rw [fill, if_pos hempty, fillAfter]
  split
  · next h => rw [hpass] at h; cases h
  · next h => rw [hpass] at h; cases h; rw [if_pos hfull]

namespace At

theorem of_pass (h : At g c queued e) {e? : Except Fault (Option RuleError)}
    (hpass : pass e.modes e.state = (e?, s)) :
    s.modeNames = e.modes.map (·.name) ∧ s.markers = [] := by
  have hframe := frame_of_pass h.plain hpass
  exact ⟨(congrArg State.Frame.modeNames hframe).trans h.names,
    (congrArg State.Frame.markers hframe).trans h.unmarked⟩

theorem next_queued (h : At g c (token :: queued) e) (htoken : token.isStop = false) :
    ∃ e', e.nextToken = (.ok token, e') ∧ At g c queued e' := by
  have hempty : ¬ e.state.queue.isEmpty = true := by
    rw [Queue.isEmpty_iff, h.queue]
    exact List.cons_ne_nil _ _
  have hfill : fill e.modes e.state = (.ok none, e.state) := by rw [fill, if_neg hempty]
  obtain ⟨queue, hqueue, hnext⟩ := nextToken_of_fill h.plain h.live hfill h.queue
  exact ⟨_, hnext, h.modes, h.plain, h.names, by simp [htoken], h.unmarked, h.situation, hqueue⟩

/-- A pass over a text that is left takes the step of the grammar. -/
theorem pass_step (h : At g c [] e) (hstep : g.StepsTo c st c') :
    ∃ s, pass e.modes e.state = (.ok none, s) ∧ s.situation = c' ∧ s.queue.toList = st.tokens := by
  obtain ⟨hsound, hperform, modes, mode, hmodes, hmode, hsel⟩ := hstep
  obtain ⟨hnames, hcompiled⟩ := Grammar.getElem?_of_compile h.modes hmodes
  obtain ⟨rules, hrules, hmode'⟩ := hcompiled _ _ hmode
  rw [← h.situation] at hmode' hperform hsel hsound
  have hne : ¬ e.state.text.isEmpty = true := by
    rw [List.isEmpty_iff]
    intro hnil
    obtain ⟨token, htoken⟩ := List.exists_mem_of_ne_nil _ hsound.some_token
    have hjoin : Token.join st.tokens = [] :=
      (List.append_eq_nil_iff.1 (hsound.text.trans hnil)).1
    exact hsound.not_empty token htoken (List.flatMap_eq_nil_iff.1 hjoin token htoken)
  obtain ⟨s, hs, hsituation, hq⟩ := tryRules_of_selects 0 hsel hrules
    (h.names.trans hnames) hperform
  refine ⟨s, ?_, hsituation, by rw [hq, h.queue, List.nil_append]⟩
  simp only [pass, if_neg hne, h.unmarked, List.find?_nil,
    show e.modes[e.state.mode]? = _ from hmode', hs]

theorem next_step (h : At g c [] e) (hstep : g.StepsTo c st c')
    (htokens : st.tokens = token :: queued) :
    ∃ e', e.nextToken = (.ok token, e') ∧ At g c' queued e' := by
  obtain ⟨s, hpass, hsituation, hq⟩ := h.pass_step hstep
  have hstop : token.isStop = false := hstep.1.not_stop token (by simp [htokens])
  have hfill := fill_of_pass h.queue hpass (by rw [hq]; exact hstep.1.some_token)
  obtain ⟨hnames, hmarkers⟩ := h.of_pass hpass
  obtain ⟨queue, hqueue, hnext⟩ := nextToken_of_fill h.plain h.live hfill (hq.trans htokens)
  exact ⟨_, hnext, h.modes, h.plain, hnames, by simp [hstop], hmarkers, hsituation, hqueue⟩

theorem next_end (h : At g c [] e) (hnil : c.text = []) :
    ∃ e', e.nextToken = (.ok endOfText, e') ∧ e'.state.stop = some endOfText ∧
      e'.state.situation = c ∧ e'.state.queue.toList = [] := by
  have hempty : e.state.text.isEmpty = true := by
    rw [List.isEmpty_iff, ← hnil, ← h.situation]
    rfl
  have hpass : pass e.modes e.state = (.ok none, e.state.push endOfText) := by
    simp only [pass, if_pos hempty, endOfText]
  have hq : (e.state.push endOfText).queue.toList = [endOfText] := by
    simp [State.push, h.queue]
  have hfill := fill_of_pass h.queue hpass (by simp [hq])
  obtain ⟨queue, hqueue, hnext⟩ := nextToken_of_fill h.plain h.live hfill hq
  exact ⟨_, hnext, rfl, h.situation, hqueue⟩

end At

theorem exists_start {compiled : List (CompiledMode ε)} (hplain : g.Plain)
    (hg : g.compile = .ok compiled) (text : Text) :
    ∃ e, Engine.start g text = .ok e ∧ At g (.start text) [] e := by
  refine ⟨_, by rw [Engine.start, hg]; rfl, hg, hplain.compile hg, rfl, rfl, rfl, rfl, rfl⟩

/-- A token that is handed out is followed by the run of the engine behind it. -/
theorem run_succ {limit : Nat} {r : Run ε} (hnext : e.nextToken = (.ok token, e'))
    (htoken : token.isStop = false) (hr : e'.run limit = .ok r) :
    e.run (limit + 1) = .ok { r with answers := (token, e') :: r.answers } := by
  simp [run, hnext, htoken, hr]

theorem run_stop {limit : Nat} (hnext : e.nextToken = (.ok token, e'))
    (htoken : token.isStop = true) : e.run (limit + 1) = .ok ⟨[], token, e'⟩ := by
  simp [run, hnext, htoken]

theorem run_endOfText {limit : Nat} (hnext : e.nextToken = (.ok endOfText, e')) :
    e.run (limit + 1) = .ok ⟨[], endOfText, e'⟩ := run_stop hnext (by decide)

/-- Steps to the end of the text determine a run. -/
theorem run_of_lexes {ts : List Token} {limit : Nat} (hlexes : g.Lexes c ts c')
    (hend : c'.text = []) (h : At g c queued e) (hqueued : ∀ token ∈ queued, token.isStop = false)
    (hlimit : queued.length + ts.length < limit) :
    ∃ r, e.run limit = .ok r ∧ r.answers.map Prod.fst = queued ++ ts ∧ r.stop = endOfText ∧
      r.last.state.situation = c' := by
  induction limit generalizing c ts e queued with
  | zero => omega
  | succ limit ih =>
    cases queued with
    | cons token queued =>
      have htoken := hqueued token List.mem_cons_self
      obtain ⟨e', hnext, h'⟩ := h.next_queued htoken
      obtain ⟨r, hr, hanswers, hrest⟩ := ih hlexes h'
        (fun t ht => hqueued t (List.mem_cons_of_mem _ ht))
        (by simp only [List.length_cons] at hlimit; omega)
      exact ⟨_, run_succ hnext htoken hr, by simp [hanswers], hrest⟩
    | nil =>
      cases hlexes with
      | refl =>
        obtain ⟨e', hnext, -, hsituation, -⟩ := h.next_end hend
        exact ⟨_, run_endOfText hnext, rfl, rfl, hsituation⟩
      | @step _ _ _ st more hstep hmore =>
        obtain ⟨token, others, htokens⟩ := List.exists_cons_of_ne_nil hstep.1.some_token
        obtain ⟨e', hnext, h'⟩ := h.next_step hstep htokens
        have hall : ∀ t ∈ token :: others, t.isStop = false := htokens ▸ hstep.1.not_stop
        obtain ⟨r, hr, hanswers, hrest⟩ := ih hmore h'
          (fun t ht => hall t (List.mem_cons_of_mem _ ht)) (by
            simp only [htokens, List.length_append, List.length_cons, List.length_nil] at hlimit
            omega)
        exact ⟨_, run_succ hnext (hall token List.mem_cons_self) hr,
          by simp [hanswers, htokens], hrest⟩

theorem scan_of_lexes {compiled : List (CompiledMode ε)} {text : Text} {ts : List Token}
    (hplain : g.Plain) (hg : g.compile = .ok compiled) (hlexes : g.Lexes (.start text) ts c)
    (hend : c.text = []) :
    ∃ r, g.scan text [] (text.byteSize + 1) = .ok r ∧ r.answers.map Prod.fst = ts ∧
      r.stop = endOfText ∧ r.last.state.situation = c := by
  obtain ⟨e, hstart, hat⟩ := exists_start hplain hg text
  have hat' : At g (.start text) [] (e.addMarkers []) :=
    ⟨hat.modes, hat.plain, hat.names, hat.live,
      by simp [addMarkers, State.addMarkers, hat.unmarked], hat.situation, hat.queue⟩
  have hlimit : ([] : List Token).length + ts.length < text.byteSize + 1 := by
    have := hlexes.length_le
    simp only [Situation.start, List.length_nil] at this ⊢
    omega
  obtain ⟨r, hr, hrest⟩ := run_of_lexes hlexes hend hat' (by simp) hlimit
  exact ⟨r, by simp [Grammar.scan, hstart, hr, Except.mapError], hrest⟩

/-- After the tokens `ts` the scan goes on under the invariant, or it has come to the end of the
text. -/
inductive Tracks (g : Grammar ε) (I : List Token → Situation → Prop) : List Token → Engine ε → Prop
  | live {ts queued : List Token} {c : Situation} {e : Engine ε} (h : At g c queued e)
    (hI : I (ts ++ queued) c) (hqueued : ∀ token ∈ queued, token.isStop = false) : Tracks g I ts e
  | ended {ts : List Token} {c : Situation} {e : Engine ε} (hstop : e.state.stop = some endOfText)
    (hI : I ts c) (hend : c.text = []) (hsituation : e.state.situation = c)
    (hq : e.state.queue.toList = []) : Tracks g I (ts ++ [endOfText]) e

variable {I : List Token → Situation → Prop} {ts : List Token}

theorem Tracks.exists_invariant (h : Tracks g I ts e) : ∃ us, I us e.state.situation := by
  cases h with
  | live h hI => exact ⟨_, h.situation.symm ▸ hI⟩
  | ended hstop hI hend hsituation => exact ⟨_, hsituation.symm ▸ hI⟩

/-- With nothing queued the invariant holds of the tokens, apart from the stop at their end. -/
theorem Tracks.of_queue_eq_nil (h : Tracks g I ts e) (hq : e.state.queue.toList = []) :
    ∃ us, (ts = us ∨ ts = us ++ [endOfText]) ∧ I us e.state.situation := by
  cases h with
  | live h hI =>
    rw [← h.queue, hq, List.append_nil] at hI
    exact ⟨_, .inl rfl, h.situation.symm ▸ hI⟩
  | ended hstop hI hend hsituation => exact ⟨_, .inr rfl, hsituation.symm ▸ hI⟩

theorem Tracks.next (hI : g.Keeps I) (h : Tracks g I ts e) (hlive : e.state.stop = none) :
    ∃ token e', e.nextToken = (.ok token, e') ∧ Tracks g I (ts ++ [token]) e' := by
  cases h with
  | ended hstop => rw [hstop] at hlive; cases hlive
  | @live _ queued c _ h hc hqueued =>
    cases queued with
    | cons token queued =>
      obtain ⟨e', hnext, h'⟩ := h.next_queued (hqueued token List.mem_cons_self)
      exact ⟨token, e', hnext, .live h' (by simpa using hc)
        fun t ht => hqueued t (List.mem_cons_of_mem _ ht)⟩
    | nil =>
      rw [List.append_nil] at hc
      by_cases hnil : c.text = []
      · obtain ⟨e', hnext, hstop, hsituation, hq⟩ := h.next_end hnil
        exact ⟨endOfText, e', hnext, .ended hstop hc hnil hsituation hq⟩
      · obtain ⟨st, c', hstep, hc'⟩ := hI _ _ hc hnil
        obtain ⟨token, queued, htokens⟩ := List.exists_cons_of_ne_nil hstep.1.some_token
        obtain ⟨e', hnext, h'⟩ := h.next_step hstep htokens
        refine ⟨token, e', hnext, .live h' (by simpa [htokens] using hc') ?_⟩
        intro t ht
        exact hstep.1.not_stop t (htokens ▸ List.mem_cons_of_mem _ ht)

theorem Tracks.pulls (hI : g.Keeps I) (h : Tracks g I ts e) (n : Nat) :
    ∃ r, e.pulls n = .ok r ∧ Tracks g I (ts ++ r.tokens) r.engine :=
  exists_pulls (fun _ _ h hlive => h.next hI hlive) n ts h

/-- From the beginning of a text any number of requests is answered, and the invariant is kept. -/
theorem exists_start_tracks {compiled : List (CompiledMode ε)} {modes : List (Mode ε)} {text : Text}
    (hI : g.Keeps I) (hplain : g.Plain) (hg : g.compile = .ok compiled)
    (hmodes : g.modes? = some modes) (hstart : I [] (.start text)) :
    ∃ e, Engine.start g text = .ok e ∧ ∀ n, ∃ r, e.pulls n = .ok r ∧
      Tracks g I r.tokens r.engine ∧ r.engine.state.modeNames = modes.map (·.name) := by
  obtain ⟨e, he, hat⟩ := exists_start hplain hg text
  refine ⟨e, he, ?_⟩
  intro n
  have hlive : Tracks g I [] e := .live hat (by simpa using hstart) (by simp)
  obtain ⟨r, hr, htracks⟩ := hlive.pulls hI n
  obtain ⟨hnames, -⟩ := Grammar.getElem?_of_compile hat.modes hmodes
  have hkept : r.engine.state.modeNames = e.state.modeNames :=
    congrArg State.Frame.modeNames (frame_of_pulls hat.plain hr)
  exact ⟨r, hr, htracks, by rw [hkept, hat.names, hnames]⟩

end Engine

end ModalLexer
