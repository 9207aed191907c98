import ModalLexer.Proofs.Engine.Transfer

/-! # Scanning conserves the text

With rules that move text into the queue, the tokens returned, the tokens still queued and the text
that is left are the whole text at every time, where a reported error counts for nothing. If no rule
names a stop, the scan ends only with a token of the engine's own, which leaves the queue empty.
-/

namespace ModalLexer

variable {ε : Type} {named : TokenType → Prop}

/-- A sequence of tokens is cut into those that rules moved, a stop that the engine found in the
text or at its end, and a report of an error. There is one of the latter two at most, and it comes
last. -/
structure Ledger (named : TokenType → Prop) (errors : List RuleError)
    (all taken stops reported : List Token) : Prop where
  eq : all = taken ++ (stops ++ reported)
  moved : ∀ token ∈ taken, ∃ kind, token.kind = some kind ∧ (named kind ∨ ¬ kind.IsA .stop)
  found : ∀ token ∈ stops, token.kind = some .stopLexer ∨ token.kind = some .stopEndOfString
  report : ∀ token ∈ reported, token.kind = some .stopError
  count : reported.length = errors.length
  last : (stops ++ reported).length ≤ 1

namespace Ledger

variable {errors : List RuleError} {all taken stops reported front : List Token}

theorem isStop_of_mem_tail (h : Ledger named errors all taken stops reported) {token : Token}
    (ht : token ∈ stops ++ reported) : token.isStop = true := by
  have hkind : token.kind = some .stopLexer ∨ token.kind = some .stopEndOfString ∨
      token.kind = some .stopError := by
    rcases List.mem_append.1 ht with hs | hr
    · rcases h.found token hs with hk | hk
      · exact .inl hk
      · exact .inr (.inl hk)
    · exact .inr (.inr (h.report token hr))
  rcases hkind with hk | hk | hk <;> simp only [Token.isStop, Token.isA, hk] <;> decide

/-- Without a stop among them, all tokens were moved by rules. -/
theorem tail_eq_nil (h : Ledger named errors all taken stops reported)
    (hlive : ∀ token ∈ all, token.isStop = false) : stops = [] ∧ reported = [] := by
  cases htail : stops ++ reported with
  | nil => exact List.append_eq_nil_iff.1 htail
  | cons token rest =>
    have hmem : token ∈ stops ++ reported := htail ▸ List.mem_cons_self
    have hfalse := hlive token (h.eq ▸ List.mem_append_right taken hmem)
    rw [h.isStop_of_mem_tail hmem] at hfalse
    cases hfalse

theorem isStop_of_mem_taken (h : Ledger named errors all taken stops reported)
    (hnamed : ∀ kind, named kind → ¬ kind.IsA .stop) {token : Token} (ht : token ∈ taken) :
    token.isStop = false := by
  obtain ⟨kind, hkind, hk⟩ := h.moved token ht
  have hstop : ¬ kind.IsA .stop := hk.elim (hnamed kind) id
  simp only [Token.isStop, Token.isA, hkind, decide_eq_false hstop]

/-- If rules name no stops, a stop is followed by nothing. -/
theorem eq_of_stop (h : Ledger named errors all taken stops reported)
    (hnamed : ∀ kind, named kind → ¬ kind.IsA .stop) {stop : Token} {queued : List Token}
    (hall : all = front ++ stop :: queued) (hstop : stop.isStop = true) :
    queued = [] ∧ taken = front ∧ stops ++ reported = [stop] := by
  have hnot : stop ∉ taken := by
    intro hmem
    rw [h.isStop_of_mem_taken hnamed hmem] at hstop
    cases hstop
  have heq : front ++ stop :: queued = taken ++ (stops ++ reported) := hall ▸ h.eq
  rcases List.append_eq_append_iff.1 heq with ⟨more, htaken, htail⟩ | ⟨more, hfront, htail⟩
  · cases more with
    | nil =>
      rw [List.nil_append] at htail
      have hlast := h.last
      rw [← htail] at hlast ⊢
      have hq : queued = [] := List.length_eq_zero_iff.1 (by simpa using hlast)
      exact ⟨hq, by simpa using htaken, by rw [hq]⟩
    | cons c more =>
      rw [List.cons_append] at htail
      exact absurd (htaken ▸ by simp [(List.cons.inj htail).1]) hnot
  · have hlast := h.last
    rw [htail] at hlast ⊢
    simp only [List.length_append, List.length_cons] at hlast
    have hmore : more = [] := List.length_eq_zero_iff.1 (by omega)
    have hq : queued = [] := List.length_eq_zero_iff.1 (by omega)
    exact ⟨hq, by simpa [hmore] using hfront.symm, by rw [hmore, hq]; rfl⟩

/-- Tokens moved before those of a ledger belong to it. -/
theorem prepend (h : Ledger named errors all taken stops reported)
    (hfront : ∀ token ∈ front, ∃ kind, token.kind = some kind ∧ (named kind ∨ ¬ kind.IsA .stop)) :
    Ledger named errors (front ++ all) (front ++ taken) stops reported := by
  have hmoved : ∀ token ∈ front ++ taken,
      ∃ kind, token.kind = some kind ∧ (named kind ∨ ¬ kind.IsA .stop) := by
    intro token htoken
    rcases List.mem_append.1 htoken with hmem | hmem
    · exact hfront token hmem
    · exact h.moved token hmem
  exact ⟨by rw [h.eq, List.append_assoc], hmoved, h.found, h.report, h.count, h.last⟩

end Ledger

namespace Engine

/-- A pass adds a ledger to the queue, and what it takes off the text is the text of the tokens
other than a report. -/
def Adds (named : TokenType → Prop) (e? : Option RuleError) (s s' : State ε) : Prop :=
  ∃ queued taken stops reported, s'.queue.toList = s.queue.toList ++ queued ∧
    Ledger named e?.toList queued taken stops reported ∧
    Token.join (taken ++ stops) ++ s'.text = s.text

variable {s s' t : State ε}

theorem adds_of_transfer (h : s.Transfer named s') : Adds named none s s' := by
  obtain ⟨queued, hq, ht, hk⟩ := h
  exact ⟨queued, queued, [], [], hq, ⟨by simp, hk, by simp, by simp, rfl, by simp⟩,
    by simpa using ht⟩

theorem adds_stop {token : Token} {rest : Text}
    (hkind : token.kind = some .stopLexer ∨ token.kind = some .stopEndOfString)
    (htext : token.text ++ rest = s.text) :
    Adds named none s ({ s with text := rest }.push token) :=
  ⟨[token], [], [token], [], by simp [State.push], ⟨rfl, by simp, by simpa using hkind, by simp,
    rfl, by simp⟩, by simpa [State.push] using htext⟩

theorem adds_fail (e : RuleError) (mode : String) : Adds named (some e) s (s.fail e mode) :=
  ⟨[_], [], [], [_], by simp [State.fail, State.push]; rfl, ⟨rfl, by simp, by simp, by simp, rfl,
    by simp⟩, by simp [State.text_fail]⟩

theorem adds_of_transfer_of_adds {e? : Option RuleError} (h : s.Transfer named s')
    (h' : Adds named e? s' t) : Adds named e? s t := by
  obtain ⟨first, hq, ht, hk⟩ := h
  obtain ⟨queued, taken, stops, reported, hq', hl, ht'⟩ := h'
  refine ⟨first ++ queued, first ++ taken, stops, reported, by simp [hq, hq'], hl.prepend hk, ?_⟩
  rw [List.append_assoc, Token.join_append, List.append_assoc, ht', ht]

theorem tryRules_adds {rules : List (CompiledRule ε)} (hrules : ∀ r ∈ rules, r.Takes named)
    {mode : String} {index : Nat} {e? : Option RuleError}
    (h : tryRules mode index rules s = (.ok e?, t)) : Adds named e? s t := by
  induction rules generalizing index s with
  | nil =>
    cases h
    exact adds_stop (.inl rfl) rfl
  | cons rule rules ih =>
    have hmore : ∀ r ∈ rules, r.Takes named := fun r hr => hrules r (List.mem_cons_of_mem _ hr)
    have hrule : s.Transfer named (rule.exec { s with rule := index }).2 :=
      (State.transfer_of_eq rfl rfl).trans
        (CompiledRule.exec_transfer (hrules rule List.mem_cons_self) { s with rule := index })
    simp only [tryRules] at h
    split at h
    · next s' hs =>
      rw [hs] at hrule
      cases h
      exact adds_of_transfer hrule
    · next s' hs =>
      rw [hs] at hrule
      exact adds_of_transfer_of_adds hrule (ih hmore h)
    · next e s' hs =>
      rw [hs] at hrule
      cases h
      exact adds_of_transfer_of_adds hrule (adds_fail e mode)
    · cases h

theorem pass_adds {modes : List (CompiledMode ε)}
    (hmodes : ∀ mode ∈ modes, ∀ r ∈ mode.rules, r.Takes named) {e? : Option RuleError}
    (h : pass modes s = (.ok e?, t)) : Adds named e? s t := by
  simp only [pass] at h
  split at h
  · next hempty =>
    cases h
    exact adds_stop (.inr rfl) rfl
  · split at h
    · next marker hmarker =>
      cases h
      have hprefix : marker <+: s.text := by simpa using List.find?_some hmarker
      obtain ⟨rest, hrest⟩ := hprefix
      refine adds_stop (.inl rfl) ?_
      rw [← hrest, List.drop_left]
    · split at h
      · next mode hmode => exact tryRules_adds (hmodes mode (List.mem_of_getElem? hmode)) h
      · cases h

/-- Filling an empty queue adds a ledger to it, as the last pass does. -/
theorem fill_adds {modes : List (CompiledMode ε)}
    (hmodes : ∀ mode ∈ modes, ∀ r ∈ mode.rules, r.Takes named) {e? : Option RuleError}
    (hq : s.queue.toList = []) (h : fill modes s = (.ok e?, t)) : Adds named e? s t := by
  rw [fill, if_pos (Queue.isEmpty_iff.2 hq)] at h
  -- An idle pass queues nothing, so it takes nothing off the text.
  have hidle : ∀ (u : State ε) e? u', u.text = s.text → u.queue.toList = [] →
      pass modes u = (.ok e?, u') → u'.queue.toList = [] → u'.text = s.text := by
    intro u e? u' hu huq hp huq'
    obtain ⟨queued, taken, stops, reported, hqueue, hl, htext⟩ := pass_adds hmodes hp
    have hnil : queued = [] := by simpa [huq, huq'] using hqueue.symm
    have hall := hl.eq.symm.trans hnil
    simp only [List.append_eq_nil_iff] at hall
    obtain ⟨rfl, rfl, rfl⟩ := hall
    exact htext.trans hu
  have hfrom : ∀ u : State ε, u.text = s.text → u.queue.toList = [] → Adds named e? u t →
      Adds named e? s t := by
    rintro u hu huq ⟨queued, taken, stops, reported, hqueue, hl, htext⟩
    exact ⟨queued, taken, stops, reported, by rw [hqueue, huq, hq], hl, htext.trans hu⟩
  rcases fillAfter_cases hidle rfl hq h with ⟨u, hu, huq, hp, -⟩ | ⟨u, n, hu, huq, rfl, rfl⟩
  · exact hfrom u hu huq (pass_adds hmodes hp)
  · exact hfrom u hu huq (adds_fail _ _)

/-- The tokens returned and queued are a ledger that accounts for the text, and the scan has ended
if and only if the token returned last is a stop. -/
structure Accounted (named : TokenType → Prop) (text : Text) (ts : List Token)
    (errors : List RuleError) (e : Engine ε) : Prop where
  ledger : ∃ taken stops reported,
    Ledger named errors (ts ++ e.state.queue.toList) taken stops reported ∧
      Token.join (taken ++ stops) ++ e.state.text = text
  live : e.state.stop = none → ∀ token ∈ ts, token.isStop = false
  halted : ∀ stop, e.state.stop = some stop → stop.isStop = true ∧ ∃ front, ts = front ++ [stop]

variable {text : Text} {ts : List Token} {errors : List RuleError} {e e' : Engine ε}

theorem Accounted.fill {e? : Option RuleError} (hmodes : ∀ mode ∈ e.modes, ∀ r ∈ mode.rules,
    r.Takes named) (h : Accounted named text ts errors e) (hlive : e.state.stop = none)
    (hfill : Engine.fill e.modes e.state = (.ok e?, s)) :
    ∃ taken stops reported,
      Ledger named (errors ++ e?.toList) (ts ++ s.queue.toList) taken stops reported ∧
        Token.join (taken ++ stops) ++ s.text = text := by
  obtain ⟨taken, stops, reported, hl, htext⟩ := h.ledger
  by_cases hq : e.state.queue.toList = []
  · -- Nothing returned so far is a stop, so the engine has added nothing of its own.
    rw [hq, List.append_nil] at hl
    obtain ⟨rfl, rfl⟩ := hl.tail_eq_nil (h.live hlive)
    have herrors : errors = [] := List.length_eq_zero_iff.1 hl.count.symm
    have htaken : taken = ts := by simpa using hl.eq.symm
    subst herrors htaken
    rw [List.append_nil] at htext
    obtain ⟨queued, more, stops, reported, hqueue, hmore, hjoin⟩ := fill_adds hmodes hq hfill
    refine ⟨taken ++ more, stops, reported, ?_, ?_⟩
    · rw [hqueue, hq, List.nil_append]
      exact hmore.prepend hl.moved
    · rw [List.append_assoc, Token.join_append, List.append_assoc, hjoin, htext]
  · have hfull : ¬ e.state.queue.isEmpty = true := mt Queue.isEmpty_iff.1 hq
    rw [Engine.fill, if_neg hfull] at hfill
    cases hfill
    exact ⟨taken, stops, reported, by simpa using hl, htext⟩

theorem Accounted.nextToken {token : Token} (hmodes : ∀ mode ∈ e.modes, ∀ r ∈ mode.rules,
    r.Takes named) (h : Accounted named text ts errors e) (hlive : e.state.stop = none)
    (hnext : e.nextToken = (.ok token, e')) :
    Accounted named text (ts ++ [token]) (errors ++ e.reports?.toList) e' := by
  obtain ⟨s, queue, hfill, hq, rfl⟩ := nextToken_cases (plain_of_takes hmodes) hlive hnext
  obtain ⟨taken, stops, reported, hl, htext⟩ := h.fill hmodes hlive hfill
  refine ⟨⟨taken, stops, reported, by simpa [hq] using hl, htext⟩, ?_, ?_⟩
  · intro hnone t ht
    by_cases hstop : token.isStop = true
    · simp [hstop] at hnone
    · rcases List.mem_append.1 ht with hmem | hmem
      · exact h.live hlive t hmem
      · rw [List.mem_singleton.1 hmem]
        simpa using hstop
  · intro stop hsome
    by_cases hstop : token.isStop = true
    · simp only [hstop, if_true, Option.some.injEq] at hsome
      subst hsome
      exact ⟨hstop, ts, rfl⟩
    · simp [hstop] at hsome

theorem Accounted.pulls {n : Nat} {r : Pulled ε} (hmodes : ∀ mode ∈ e.modes, ∀ r ∈ mode.rules,
    r.Takes named) (h : Accounted named text [] [] e) (hr : e.pulls n = .ok r) :
    Accounted named text r.tokens r.errors r.engine := by
  have hkept := pulls_induction (I := Accounted named text)
    (fun ts errors e₁ token e₂ hsame hacc hlive hnext =>
      hacc.nextToken (hsame ▸ hmodes) hlive hnext)
    [] [] rfl h hr
  simpa using hkept

/-- Scanning neither loses nor repeats nor invents text: at every time the tokens returned and
queued, apart from the reports of errors at their end, and the text that is left are the whole text.
If no rule names a stop, the tokens before the stop, the stop unless it is an error, and the text
that is left are the whole text. -/
theorem pulls_conserve_text {g : Grammar ε} {text : Text} {markers : List Text} {start e : Engine ε}
    {n : Nat} {r : Pulled ε} (hg : g.Takes fun _ => True) (hstart : Engine.start g text = .ok start)
    (he : e = start.addMarkers markers ∨ ∃ x, e = (start.addMarkers markers).withExtension x)
    (hr : e.pulls n = .ok r) :
    (∃ taken reported, r.tokens ++ r.engine.state.queue.toList = taken ++ reported ∧
      reported.length = r.errors.length ∧ (∀ token ∈ reported, token.kind = some .stopError) ∧
      Token.join taken ++ r.engine.state.text = text) ∧
    ((g.Takes fun kind => ¬ kind.IsA .stop) → ∀ stop, r.engine.state.stop = some stop →
      ∃ front, r.tokens = front ++ [stop] ∧
        Token.join front ++ (if stop.isA .stopError then [] else stop.text)
          ++ r.engine.state.text = text) := by
  obtain ⟨hmodes, hstate⟩ := start_cases hstart
  have hfresh : e.modes = start.modes ∧ e.state.queue.toList = [] ∧ e.state.text = text ∧
      e.state.stop = none := by
    rcases he with rfl | ⟨x, rfl⟩ <;>
      simp [addMarkers, withExtension, State.addMarkers, hstate]
  obtain ⟨hsame, hq, htext, hlive⟩ := hfresh
  have hbegin : ∀ named, Accounted named text [] [] e := fun named =>
    ⟨⟨[], [], [], ⟨by simp [hq], by simp, by simp, by simp, rfl, by simp⟩, by simp [htext]⟩,
      by simp, by simp [hlive]⟩
  constructor
  · obtain ⟨taken, stops, reported, hl, hjoin⟩ :=
      ((hbegin _).pulls (hsame ▸ hg.compile hmodes) hr).ledger
    exact ⟨taken ++ stops, reported, by simp [hl.eq], hl.count, hl.report, hjoin⟩
  · intro hnostop stop hstop
    have hacc := (hbegin _).pulls (hsame ▸ hnostop.compile hmodes) hr
    obtain ⟨taken, stops, reported, hl, hjoin⟩ := hacc.ledger
    obtain ⟨hisstop, front, hfront⟩ := hacc.halted stop hstop
    have hall : r.tokens ++ r.engine.state.queue.toList
        = front ++ stop :: r.engine.state.queue.toList := by simp [hfront]
    obtain ⟨-, rfl, htail⟩ := hl.eq_of_stop (fun _ h => h) hall hisstop
    refine ⟨taken, hfront, ?_⟩
    rw [← hjoin, Token.join_append]
    congr 2
    -- The only token behind the moved ones is a stop found in the text or the report of an error.
    cases stops with
    | nil =>
      have hmem : stop ∈ reported := by simp [show reported = [stop] from htail]
      have hkind := hl.report stop hmem
      simp [Token.isA, hkind, show TokenType.stopError.IsA .stopError by decide]
    | cons first others =>
      obtain ⟨rfl, hothers⟩ := List.cons.inj htail
      obtain ⟨rfl, -⟩ := List.append_eq_nil_iff.1 hothers
      rcases hl.found first List.mem_cons_self with hkind | hkind <;>
        simp [Token.isA, hkind, show ¬ TokenType.stopLexer.IsA .stopError by decide,
          show ¬ TokenType.stopEndOfString.IsA .stopError by decide]

/-- A marker that ends the scan in the middle of a text. -/
theorem pulls_conserve_text_at_marker : ∃ start r,
    Engine.start (Language.C.grammar : Grammar Unit) "f(/*x*/ ] @@é".toList = .ok start ∧
    (start.addMarkers ["@@".toList]).pulls 9 = .ok r ∧
    r.engine.state.stop = some ⟨some .stopLexer, "@@".toList⟩ ∧
    ∃ front, r.tokens = front ++ [⟨some .stopLexer, "@@".toList⟩] ∧
      Token.join front ++ "@@".toList ++ r.engine.state.text = "f(/*x*/ ] @@é".toList := by
  obtain ⟨start, hstart, r, hr, hstop⟩ : ∃ start,
      Engine.start (Language.C.grammar : Grammar Unit) "f(/*x*/ ] @@é".toList = .ok start ∧
      ∃ r, (start.addMarkers ["@@".toList]).pulls 9 = .ok r ∧
        r.engine.state.stop = some ⟨some .stopLexer, "@@".toList⟩ := by
    decide +kernel
  refine ⟨start, r, hstart, hr, hstop, ?_⟩
  have hconserve := pulls_conserve_text (Language.C.takes_grammar fun _ _ => trivial) hstart
    (.inl rfl) hr
  exact hconserve.2 (Language.C.takes_grammar fun _ h => h) _ hstop

end Engine

end ModalLexer
