import ModalLexer.Proofs.Pattern.Renumbering
import ModalLexer.Proofs.Pattern.Tying

/-! # Rules and the patterns that they are written with

A pattern rule searches for its pattern behind an anchor and in a group. If the pattern does not
close a group without opening it, the rule compiles if the pattern can be read, and matches what the
pattern matches at the start of the text.
-/

namespace ModalLexer

namespace Pattern

variable {e : Expr} {k : Nat} {pointed : Bool} {t : Text}

/-- The first match of an expression at the start of a text, in the order of its alternatives. -/
def Expr.matchAtStart (pointed : Bool) (e : Expr) (t : Text) : Option Captures :=
  (matchFrom ⟨(e.toMatcher pointed 0).1, e.groups, true⟩ none 0 t {}).toOption

theorem toOption_map {ω α β : Type} (f : α → β) (x : Except ω α) :
    (x.map f).toOption = x.toOption.map f := by
  cases x <;> rfl

/-- At the start of the text the anchor holds, and an expression behind it goes on from there. -/
theorem toOption_start_anchored (e : Expr) (pointed : Bool) {p : Progress} (hp : p.before = none) :
    ((Expr.toMatcher pointed (.cat (.anchor .textStart) e) 0).1.start p {}).toOption =
      ((e.toMatcher pointed 0).1.start p {}).toOption := by
  have hanchor : Anchor.textStart.holds p.before p.rest = true := by simp [Anchor.holds, hp]
  cases pointed with
  | false =>
    show ((Matcher.cat (.anchor .textStart) (e.toMatcher false 0).1).start p {}).toOption = _
    simp only [Matcher.start, Matcher.run, hanchor, if_true]
  | true =>
    -- The anchor has a point of its own, so those of the expression are numbered from one.
    show ((Matcher.cat (.cat (.once 0) (.anchor .textStart)) (e.toMatcher true 1).1).start p
      {}).toOption = _
    have hfresh : (({} : Visited).contains (p.offset, 0)) = false := Std.TreeSet.contains_emptyc
    simp only [Matcher.start, Matcher.run, hanchor, if_true, hfresh]
    refine e.toOption_start_toMatcher true p fun offset point => ?_
    rw [Bool.eq_false_iff, ne_eq, Visited.contains_insert]
    simp

/-- Behind the anchor the expression finds what it finds at the start of the text. -/
theorem search_tied (h : Expr.sequence [e] = e) (t : Text) :
    (ofExpr e.tied).search t = e.matchAtStart e.tied.laborious t := by
  rcases Expr.tied_cases h with ⟨rfl, htied⟩ | htied
  · rw [htied]
    rfl
  · have hstart : e.tied.fromStart = true := by rw [htied]; rfl
    have hgroups : e.tied.groups = e.groups := by rw [htied]; exact Nat.zero_max _
    rw [ofExpr, search, if_pos hstart, hstart, hgroups]
    simp only [Bool.not_true, Bool.or_false]
    generalize e.tied.laborious = pointed
    rw [htied, Expr.matchAtStart, matchFrom, matchFrom]
    dsimp only
    rw [toOption_map, toOption_map, toOption_start_anchored e pointed rfl]

end Pattern

namespace Rule

variable {ε : Type} {source : String} {action : Action ε}

theorem compile_pattern_eq_ok_iff {c : CompiledRule ε} :
    (pattern source action).compile = .ok c ↔
      ∃ e, Pattern.parse (anchoredSource source.toList) = .ok e ∧
        c = .pattern (Pattern.ofExpr e) action := by
  simp only [compile, Pattern.compile]
  cases Pattern.parse (anchoredSource source.toList) with
  | error e =>
    refine iff_of_false (fun h => by cases h) ?_
    rintro ⟨_, h, -⟩
    cases h
  | ok e =>
    constructor
    · intro h
      cases h
      exact ⟨e, rfl, rfl⟩
    · rintro ⟨_, h, rfl⟩
      cases h
      rfl

/-- A pattern rule whose pattern does not close a group without opening it. The rule compiles if the
pattern can be read, does not end in a comment, and keeps to the limits behind the anchor. Then the
action gets the first match of the pattern at the start of the text that is left, and is not run if
there is none. -/
theorem compile_exec_anchored (h : Pattern.parse source.toList ≠ .error .unopenedGroup) :
    ((∃ c, (pattern source action).compile = .ok c) ↔
      ∃ e d, Pattern.parseUnbounded source.toList = .ok (e, d) ∧
        Pattern.parseUnbounded (source.toList ++ [')']) = .error .unopenedGroup ∧
        d + 2 ≤ Pattern.maxDepth ∧ e.tied.fits = true) ∧
    ∀ c, (pattern source action).compile = .ok c →
      ∃ e d, Pattern.parseUnbounded source.toList = .ok (e, d) ∧
        ∀ s : State ε, c.exec s =
          (e.matchAtStart e.tied.laborious s.text).elim (.ok false, s) (action.exec · s) := by
  simp only [compile_pattern_eq_ok_iff, Pattern.parse_anchoredSource_iff h]
  constructor
  · constructor
    · rintro ⟨_, _, ⟨e, d, hread, hparen, hdepth, hfits, rfl⟩, rfl⟩
      exact ⟨e, d, hread, hparen, hdepth, hfits⟩
    · rintro ⟨e, d, hread, hparen, hdepth, hfits⟩
      exact ⟨_, _, ⟨e, d, hread, hparen, hdepth, hfits, rfl⟩, rfl⟩
  · rintro _ ⟨_, ⟨e, d, hread, -, -, -, rfl⟩, rfl⟩
    refine ⟨e, d, hread, fun s => ?_⟩
    rw [CompiledRule.exec, Pattern.search_tied (Pattern.Expr.sequence_of_parseUnbounded hread)]
    cases e.matchAtStart e.tied.laborious s.text <;> rfl

/-- Every alternative of a pattern is tied to the start of the text. -/
theorem compile_exec_anchored_alternatives : ∃ c,
    (pattern "a|bc" (.emit [.code]) : Rule Unit).compile = .ok c ∧
      ∀ s : State Unit, s.text = ['x', 'b', 'c'] → c.exec s = (.ok false, s) := by
  have hclosed : Pattern.parse "a|bc".toList ≠ .error .unopenedGroup := by decide +kernel
  have hread : Pattern.parseUnbounded "a|bc".toList =
      .ok (.alt (.literal ['a']) (.literal ['b', 'c']), 2) := by decide +kernel
  have hparen : Pattern.parseUnbounded ("a|bc".toList ++ [')']) = .error .unopenedGroup := by
    decide +kernel
  have hrule := @compile_exec_anchored Unit "a|bc" (.emit [.code]) hclosed
  obtain ⟨c, hc⟩ := hrule.1.2 ⟨_, _, hread, hparen, by decide, by decide +kernel⟩
  refine ⟨c, hc, fun s hs => ?_⟩
  obtain ⟨e, d, hread', hexec⟩ := hrule.2 c hc
  cases hread.symm.trans hread'
  have hnone : (Pattern.Expr.alt (.literal ['a']) (.literal ['b', 'c'])).matchAtStart
      (Pattern.Expr.alt (.literal ['a']) (.literal ['b', 'c'])).tied.laborious
      ['x', 'b', 'c'] = none := by
    decide +kernel
  rw [hexec, hs, hnone]
  rfl

/-- A pattern that is valid only in the group, with a match behind the start of the text, and a
pattern that is valid only alone, as the parenthesis gets into its comment. -/
theorem anchoring_changes_patterns :
    Pattern.parse "a)|(?:b".toList = .error .unopenedGroup ∧
      (∃ c, (pattern "a)|(?:b" (.emit [.code]) : Rule Unit).compile = .ok c ∧
        let s : State Unit := { grammar := "g", modeNames := ["root"], text := ['x', 'b'] }
        (c.exec s).1.toOption = some true ∧ (c.exec s).2.text = [] ∧
          (c.exec s).2.queue.toList = [⟨some .code, ['x', 'b']⟩]) ∧
      Pattern.parse "(?x)a#".toList = .ok (.literal ['a']) ∧
      (pattern "(?x)a#" (.emit [.code]) : Rule Unit).compile.toOption.isNone := by
  exact ⟨by decide +kernel, by decide +kernel, by decide +kernel, by decide +kernel⟩

end Rule

end ModalLexer
