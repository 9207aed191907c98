import ModalLexer.Proofs.Engine.Passes
import ModalLexer.Proofs.Rule.SingleEmission

/-! # Scans that are never abandoned

If every action of a grammar is tidy, no request is abandoned in the middle of a character, no token
but a stop is empty, and a rule that fires takes nothing or the text up to the end of its match. A
second emission in one action breaks all of this.
-/

namespace ModalLexer

variable {ε : Type}

/-- The grammar with one mode and one rule. -/
def Grammar.ofRule (source : String) (action : Action ε) : Grammar ε :=
  { name := "g", modes? := some [⟨"root", [.pattern source action]⟩] }

theorem Grammar.forall_ofRule {P : Rule ε → Prop} {source : String} {action : Action ε}
    (h : P (.pattern source action)) : ∀ modes, (Grammar.ofRule source action).modes? = some modes →
      ∀ mode ∈ modes, ∀ r ∈ mode.rules, P r := by
  rintro modes ⟨rfl⟩ mode hmode r hr
  obtain rfl := List.mem_singleton.1 hmode
  obtain rfl := List.mem_singleton.1 hr
  exact h

theorem Grammar.declares_ofRule {P : Action ε → Prop} {source : String} {action : Action ε}
    (h : P action) : (Grammar.ofRule source action).Declares P :=
  forall_ofRule (P := Rule.Declares P) h

namespace Engine

variable {modes : List (CompiledMode ε)} {s s' t : State ε} {e e' : Engine ε}
  {answer : Except Fault (Option RuleError)} {rules : List (CompiledRule ε)} {index number : Nat}
  {rule : CompiledRule ε}

/-- No token is empty, except for stops. -/
def Full (tokens : List Token) : Prop := ∀ token ∈ tokens, token.isStop = false → token.text ≠ []

theorem Full.append {tokens more : List Token} (h : Full tokens) (h' : Full more) :
    Full (tokens ++ more) := by
  intro token htoken
  rcases List.mem_append.1 htoken with hmem | hmem
  · exact h token hmem
  · exact h' token hmem

theorem full_of_cuts {tokens : List Token} (h : s.Cuts s' tokens) (hs : Full s.queue.toList) :
    Full s'.queue.toList := by
  rw [h.queue]
  exact hs.append fun token htoken _ => (h.sound token htoken).1

theorem full_push {kind : TokenType} {text : Text} (hkind : kind.IsA .stop)
    (hs : Full s.queue.toList) : Full (s.push ⟨some kind, text⟩).queue.toList := by
  rw [State.push, Queue.toList_push]
  exact hs.append (by simp [Full, Token.isStop, Token.isA, hkind])

/-- Tidy rules that decline leave the text and the queue. -/
theorem Declined.keeps (h : Declined index rules s t)
    (hrules : ∀ r ∈ rules, r.Declares Action.Tidy) : t.text = s.text ∧ t.queue = s.queue := by
  induction h with
  | nil => exact ⟨rfl, rfl⟩
  | cons hexec _ ih =>
    obtain ⟨p, action, rfl, haction⟩ := (hrules _ List.mem_cons_self).exists_eq
    obtain ⟨htext, hqueue⟩ := (CompiledRule.exec_cuts haction hexec).2.1 rfl
    obtain ⟨htext', hqueue'⟩ := ih fun r hr => hrules r (List.mem_cons_of_mem _ hr)
    exact ⟨htext'.trans htext, hqueue'.trans hqueue⟩

theorem Turn.tidy (h : Turn index rules s rule number t)
    (hrules : ∀ r ∈ rules, r.Declares Action.Tidy) :
    (∃ p action, rule = .pattern p action ∧ action.Tidy) ∧ t.text = s.text ∧ t.queue = s.queue := by
  obtain ⟨before, after, rfl, -, hdeclined⟩ := h
  exact ⟨(hrules rule (by simp)).exists_eq, hdeclined.keeps fun r hr => hrules r (by simp [hr])⟩

/-- The scan is in modes that exist, and no token that it has queued is empty, except for stops. -/
structure Orderly (grammar : String) (names : List String) (s : State ε) : Prop where
  scans : s.Scans grammar names
  full : Full s.queue.toList

variable {grammar : String}

section Passes

variable (hmodes : ∀ mode ∈ modes, ∀ r ∈ mode.rules, r.Declares Action.Tidy)
include hmodes

theorem plain_of_tidy : Plain modes := plain_of_declares (fun _ h => h.declarative.plain) hmodes

/-- A pass over tidy rules is not abandoned, and the tokens that it queues are not empty, except for
stops. -/
theorem pass_full (hs : Orderly grammar (modes.map (·.name)) s) (h : pass modes s = (answer, s')) :
    (∀ f, answer ≠ .error f) ∧ Full s'.queue.toList := by
  obtain ⟨hscans, hs⟩ := hs
  rcases pass_cases h with ⟨-, rfl, rfl⟩ | ⟨marker, -, rfl, rfl⟩ | ⟨-, -, hrules⟩
  · exact ⟨by simp, full_push (by decide) hs⟩
  · exact ⟨by simp, full_push (by decide) hs⟩
  rcases hrules with ⟨hnone, -⟩ | ⟨mode, hmode, htried⟩
  · obtain ⟨mode, hmode⟩ := hscans.exists_mode
    rw [hnone] at hmode
    cases hmode
  have htidy := hmodes mode (List.mem_of_getElem? hmode)
  -- On its turn a rule neither is abandoned nor queues an empty token.
  have hturn : ∀ {rule number t result u}, Turn 0 mode.rules s rule number t →
      rule.exec { t with rule := number } = (result, u) →
      (∀ f, result ≠ .error (.fault f)) ∧ Full u.queue.toList := by
    intro rule number t result u hturn hexec
    obtain ⟨⟨p, action, rfl, haction⟩, -, hqueue⟩ := hturn.tidy htidy
    obtain ⟨hfault, -, ⟨-, rfl⟩ | ⟨_, -, tokens, hcuts, -⟩⟩ :=
      CompiledRule.exec_cuts haction hexec
    · exact ⟨hfault, by simpa [hqueue] using hs⟩
    · exact ⟨hfault, full_of_cuts hcuts (by simpa [hqueue] using hs)⟩
  cases htried with
  | fired hrule hexec => exact ⟨by simp, (hturn hrule hexec).2⟩
  | failed hrule hexec => exact ⟨by simp, full_push (by decide) (hturn hrule hexec).2⟩
  | abandoned hrule hexec => exact absurd rfl ((hturn hrule hexec).1 _)
  | unmatched hdeclined =>
    exact ⟨by simp, full_push (by decide) (by rwa [(hdeclined.keeps htidy).2])⟩

theorem pass_orderly (hs : Orderly grammar (modes.map (·.name)) s)
    (h : pass modes s = (answer, s')) :
    (∀ f, answer ≠ .error f) ∧ Orderly grammar (modes.map (·.name)) s' := by
  have hscans : (pass modes s).2.Scans grammar (modes.map (·.name)) :=
    pass_kept State.kept_scans (fun _ hs => hs.of_same rfl rfl rfl rfl)
      (allows_of_forall State.scans_keptBy modes) hs.scans
  rw [h] at hscans
  obtain ⟨hfault, hfull⟩ := pass_full hmodes hs h
  exact ⟨hfault, hscans, hfull⟩

end Passes

/-- A request is abandoned only if its passes are, and an orderly state stays so. -/
theorem nextToken_orderly (hmodes : ∀ mode ∈ e.modes, ∀ r ∈ mode.rules, r.Declares Action.Tidy)
    (he : Orderly grammar (e.modes.map (·.name)) e.state) (hlive : e.state.stop = none) :
    ∃ token e', e.nextToken = (.ok token, e') ∧ e'.modes = e.modes ∧ Full [token] ∧
      Orderly grammar (e.modes.map (·.name)) e'.state := by
  cases hfill : fill e.modes e.state with
  | mk answer s =>
    have hfilled := fill_answers (P := Orderly grammar (e.modes.map (·.name)))
      (fun hs h => pass_orderly hmodes hs h)
      (fun _ _ hs => ⟨hs.scans.of_same rfl rfl rfl rfl, full_push (by decide) hs.full⟩) he hfill
    cases answer with
    | error f => exact absurd rfl (hfilled.1 f)
    | ok e? =>
      obtain ⟨token, queued, hq⟩ := List.exists_cons_of_ne_nil (fill_queue hfill)
      obtain ⟨queue, rfl, hnext⟩ := nextToken_of_fill (plain_of_tidy hmodes) hlive hfill hq
      have hall := hq ▸ hfilled.2.full
      exact ⟨token, _, hnext, rfl, by simpa [Full] using hall token List.mem_cons_self,
        hfilled.2.scans.of_same rfl rfl rfl rfl,
        fun t ht => hall t (List.mem_cons_of_mem _ ht)⟩

theorem pulls_full (hmodes : ∀ mode ∈ e.modes, ∀ r ∈ mode.rules, r.Declares Action.Tidy)
    (he : Orderly grammar (e.modes.map (·.name)) e.state) (n : Nat) :
    ∃ r, e.pulls n = .ok r ∧ r.engine.modes = e.modes ∧ Full r.tokens := by
  have hkept := exists_pulls
    (I := fun ts e' => e'.modes = e.modes ∧ Orderly grammar (e.modes.map (·.name)) e'.state ∧
      Full ts)
    (fun ts e₁ ⟨hsame, he₁, hts⟩ hlive => by
      rw [← hsame] at hmodes he₁
      obtain ⟨token, e₂, hnext, hsame', htoken, he₂⟩ := nextToken_orderly hmodes he₁ hlive
      exact ⟨token, e₂, hnext, hsame'.trans hsame, hsame ▸ he₂, hts.append htoken⟩)
    n [] ⟨rfl, he, by simp [Full]⟩
  obtain ⟨r, hr, hsame, -, htokens⟩ := hkept
  exact ⟨r, hr, hsame, htokens⟩

/-- What a number of requests leads to where additions to the score are checked. -/
def checkedPulls : (n : Nat) → Engine ε → Except Fault (Pulled ε)
  | 0, e => .ok ⟨[], [], e⟩
  | n + 1, e =>
    match e.checkedToken with
    | (.error f, _) => .error f
    | (.ok token, e') =>
      (checkedPulls n e').map fun r =>
        if e.state.isHalted then r
        else ⟨token :: r.tokens, e.reports?.toList ++ r.errors, r.engine⟩

theorem overflowed_of_pulls (hplain : Plain e.modes) {n : Nat} {r : Pulled ε}
    (hr : e.pulls n = .ok r) (he : e.state.overflowed = true) :
    r.engine.state.overflowed = true := by
  refine pulls_induction (I := fun _ _ e' => e'.state.overflowed = true)
    (fun _ _ e₁ token e₂ hsame he₁ _ hnext => ?_) [] [] rfl he hr
  rw [← hsame] at hplain
  have hkept := (nextToken_kept State.kept_overflowed (fun _ hs => hs) (fun _ hs => hs)
    hplain.allows he₁).2
  rwa [hnext] at hkept

/-- Checks make a difference only if the score leaves the machine word, and then a request is
abandoned. -/
theorem checkedPulls_eq (hplain : Plain e.modes) {n : Nat} {r : Pulled ε}
    (hr : e.pulls n = .ok r) (he : e.state.overflowed = false) :
    e.checkedPulls n = if r.engine.state.overflowed then .error .overflow else .ok r := by
  induction n generalizing e r with
  | zero =>
    cases hr
    simp [checkedPulls, he]
  | succ n ih =>
    unfold pulls at hr
    cases hnext : e.nextToken with
    | mk answer e' =>
      have hplain' : Plain e'.modes := by
        have hmodes := modes_nextToken e
        rw [hnext] at hmodes
        exact hmodes ▸ hplain
      cases answer with
      | error f => simp [hnext] at hr
      | ok token =>
        simp only [hnext] at hr
        cases hrest : e'.pulls n with
        | error f => rw [hrest] at hr; cases hr
        | ok rest =>
          rw [hrest] at hr
          have hengine : r.engine = rest.engine := by
            cases hr
            split <;> rfl
          cases hover : e'.state.overflowed with
          | true =>
            rw [hengine, overflowed_of_pulls hplain' hrest hover]
            simp [checkedPulls, checkedToken, hnext, hover]
          | false =>
            have hchecked : e.checkedToken = (.ok token, e') := by
              simp [checkedToken, hnext, hover]
            rw [hengine, checkedPulls, hchecked]
            cases hr
            simp only [ih hplain' hrest hover]
            cases rest.engine.state.overflowed <;> rfl

/-- Scanning with tidy pattern rules is never abandoned, whatever the text, the markers and the
number of requests are, unless additions to the score are checked and one of them leaves the machine
word. No token that it returns is empty, apart from stops. When one of its passes ends with a rule
that fires, the pass has taken nothing, or exactly the text up to the end of the match of that
rule. -/
theorem tidy_scans_safe {g : Grammar ε} {text : Text} {start : Engine ε}
    (hg : g.Declares Action.Tidy) (hstart : Engine.start g text = .ok start) (markers : List Text)
    (n : Nat) :
    ∃ r, (start.addMarkers markers).pulls n = .ok r ∧
      (start.addMarkers markers).checkedPulls n
        = (if r.engine.state.overflowed then .error .overflow else .ok r) ∧
      (∀ token ∈ r.tokens, token.isStop = false → token.text ≠ []) ∧
      ∀ u p action number t s', r.engine.PassBegins u →
        RuleTurn r.engine.modes u (.pattern p action) number t →
        (CompiledRule.pattern p action).exec { t with rule := number } = (.ok true, s') →
        pass r.engine.modes u = (.ok none, s') ∧ ∃ captures, p.search u.text = some captures ∧
          (s'.text = u.text ∨ ∃ taken, u.text = taken ++ s'.text ∧
            taken.byteSize = captures.span.stop) := by
  obtain ⟨hcompile, hstate⟩ := start_cases hstart
  have hmodes := hg.compile hcompile
  have hfresh : Orderly g.name (start.modes.map (·.name)) (start.addMarkers markers).state :=
    ⟨(start_scans hstart).of_same rfl rfl rfl rfl, by
      simp [addMarkers, State.addMarkers, hstate, Full]⟩
  obtain ⟨r, hr, hsame, hfull⟩ := pulls_full (e := start.addMarkers markers) hmodes hfresh n
  have hchecked := checkedPulls_eq (e := start.addMarkers markers) (plain_of_tidy hmodes) hr
    (by simp [addMarkers, State.addMarkers, hstate])
  refine ⟨r, hr, hchecked, hfull, ?_⟩
  intro u p action number t s' _ hrule hexec
  refine ⟨hrule.pass_eq hexec, ?_⟩
  obtain ⟨-, -, mode, hmode, hturn⟩ := hrule
  have htidy : ∀ r ∈ mode.rules, r.Declares Action.Tidy := by
    rw [hsame] at hmode
    exact hmodes mode (List.mem_of_getElem? hmode)
  obtain ⟨⟨_, _, heq, haction⟩, htext, -⟩ := hturn.tidy htidy
  cases heq
  obtain ⟨-, -, ⟨hfired, -⟩ | ⟨captures, hsearch, tokens, hcuts, hsize⟩⟩ :=
    CompiledRule.exec_cuts haction hexec
  · cases hfired
  · refine ⟨captures, by rw [← hsearch, htext], ?_⟩
    have hjoin : u.text = Token.join tokens ++ s'.text := by rw [← htext]; exact hcuts.text
    rcases hsize with rfl | hsize
    · exact .inl hjoin.symm
    · exact .inr ⟨Token.join tokens, hjoin, hsize⟩

/-- An emission between changes of score and mode. -/
theorem tidy_scans_safe_around_emission : ∃ start r,
    Engine.start (.ofRule "é+" (.sequence [.score 1, .sequence [.emit [.code], .enter "root"]]) :
      Grammar Unit) "éé".toList = .ok start ∧
    (start.addMarkers []).pulls 2 = .ok r ∧ (start.addMarkers []).checkedPulls 2 = .ok r ∧
    r.tokens = [⟨some .code, "éé".toList⟩, ⟨some .stopEndOfString, []⟩] ∧
    ∀ token ∈ r.tokens, token.isStop = false → token.text ≠ [] := by
  obtain ⟨start, hstart, r, hr, htokens, hover⟩ : ∃ start,
      Engine.start (.ofRule "é+" (.sequence [.score 1, .sequence [.emit [.code], .enter "root"]]) :
        Grammar Unit) "éé".toList = .ok start ∧
      ∃ r, (start.addMarkers []).pulls 2 = .ok r ∧
        r.tokens = [⟨some .code, "éé".toList⟩, ⟨some .stopEndOfString, []⟩] ∧
        r.engine.state.overflowed = false := by
    decide +kernel
  have htidy : (.sequence [.score 1, .sequence [.emit [.code], .enter "root"]] :
      Action Unit).Tidy := by
    exact ⟨by decide, by decide, rfl⟩
  obtain ⟨r', hr', hchecked, hfull, -⟩ :=
    tidy_scans_safe (Grammar.declares_ofRule htidy) hstart [] 2
  obtain rfl : r' = r := Except.ok.inj (hr'.symm.trans hr)
  rw [hover] at hchecked
  exact ⟨start, r', hstart, hr, hchecked, htokens, hfull⟩

/-- A second emission in an action cuts the text inside a character, queues an empty token, or takes
text behind the match. A large score leaves the machine word the second time. -/
theorem second_emission_unsafe :
    let scan (text : String) : Except ScanError (List Token) :=
      ((.ofRule "a" (.sequence [.emit [.code], .emit [.code]]) : Grammar Unit).scan text.toList []
        3).map fun r => r.answers.map Prod.fst
    scan "aé" = .error (.aborted (.fault .splitCharacter)) ∧
      scan "a" = .ok [⟨some .code, ['a']⟩, ⟨some .code, []⟩] ∧
      scan "ab" = .ok [⟨some .code, ['a']⟩, ⟨some .code, ['b']⟩] ∧
      ((Engine.start (.ofRule "a" (.sequence [.emit [.code], .score Int64.maxValue]) :
          Grammar Unit) ['a', 'a']).toOption.map fun e =>
        (e.checkedPulls 2).map (·.tokens)) = some (.error .overflow) := by
  decide +kernel

end Engine

end ModalLexer
