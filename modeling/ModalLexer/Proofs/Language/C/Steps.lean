import ModalLexer.Language.C
import ModalLexer.Proofs.CharSet
import ModalLexer.Proofs.Rule.Choice
import ModalLexer.Proofs.Scanner.Kinds
import ModalLexer.Proofs.Scanner.Progress

/-! # The steps of the C family

In every mode some rule takes a step, whatever the text is. A step opens a bracket, closes the
innermost one, meets a closer that does not match it, or has nothing to do with brackets. The score
that it adds can be seen from its tokens.
-/

namespace ModalLexer.Language.C

variable {ε : Type}

inductive Bracket where
  | brace
  | paren
  | square
deriving DecidableEq, Repr

namespace Bracket

def opener : Bracket → Char
  | brace => '\x7b'
  | paren => '('
  | square => '['

def closer : Bracket → Char
  | brace => '\x7d'
  | paren => ')'
  | square => ']'

def mode : Bracket → Nat
  | brace => 1
  | paren => 2
  | square => 3

def modeName : Bracket → String
  | brace => "block"
  | paren => "paren"
  | square => "index"

/-- The mode between the brackets, with the patterns that begin and end it. -/
def nesting (b : Bracket) : Nesting :=
  ⟨b.modeName, String.ofList ['\\', b.opener], String.ofList ['\\', b.closer]⟩

end Bracket

theorem nestings_eq : nestings = [Bracket.brace, .paren, .square].map Bracket.nesting := rfl

def modeNames : List String := ["root", "block", "paren", "index"]

theorem idxOf?_modeName (b : Bracket) : modeNames.idxOf? b.modeName = some b.mode := by
  cases b <;> decide

/-- What a token adds to the score. -/
def tokenScore (token : Token) : Int64 :=
  if token.kind = some .codeComment then 1
  else if token.kind = some .codeIdentifierKeyword then
    if token.text.head? = some '#' then 2 else 1
  else if token.kind = some .textInvalid then -1
  else 0

@[simp] theorem tokenScore_delimiter (u : Text) : tokenScore ⟨some .codeDelimiter, u⟩ = 0 := rfl

def scoreOf : List Token → Int64
  | [] => 0
  | token :: ts => tokenScore token + scoreOf ts

@[simp] theorem scoreOf_nil : scoreOf [] = 0 := rfl

@[simp] theorem scoreOf_cons (token : Token) (ts : List Token) :
    scoreOf (token :: ts) = tokenScore token + scoreOf ts := rfl

@[simp] theorem scoreOf_append (ts us : List Token) :
    scoreOf (ts ++ us) = scoreOf ts + scoreOf us := by
  induction ts with
  | nil => simp
  | cons token ts ih => rw [List.cons_append, scoreOf_cons, scoreOf_cons, ih, Int64.add_assoc]

theorem scoreOf_eq_zero {ts : List Token} (h : ∀ token ∈ ts, tokenScore token = 0) :
    scoreOf ts = 0 := by
  induction ts with
  | nil => rfl
  | cons token ts ih =>
    rw [scoreOf_cons, h token List.mem_cons_self, ih fun t ht => h t (List.mem_cons_of_mem _ ht)]
    rfl

/-- The types of tokens that are no brackets and add nothing to the score. -/
def Neutral (kind : TokenType) : Prop :=
  ¬ kind.IsA .stop ∧
    kind ∉ [TokenType.codeDelimiter, .codeComment, .codeIdentifierKeyword, .textInvalid]

instance (kind : TokenType) : Decidable (Neutral kind) := inferInstanceAs (Decidable (_ ∧ _))

theorem Neutral.ne_delimiter {kind : TokenType} (h : Neutral kind) : kind ≠ .codeDelimiter := by
  rintro rfl
  simp [Neutral] at h

theorem Neutral.score {kind : TokenType} (h : Neutral kind) (u : Text) :
    tokenScore ⟨some kind, u⟩ = 0 := by
  simp only [Neutral, List.mem_cons, List.not_mem_nil, not_or] at h
  simp [tokenScore, h]

/-- The ways in which a step between the given brackets can change mode and score. -/
inductive StepIn (inside : Option Bracket) : Step → Prop
  | plain {st : Step} (hscore : st.score = scoreOf st.tokens) (hmove : st.move = .stay)
    (hkind : ∀ token ∈ st.tokens, token.kind ≠ some .codeDelimiter) : StepIn inside st
  | opens (b : Bracket) (rest : Text) :
    StepIn inside { tokens := [⟨some .codeDelimiter, [b.opener]⟩], rest, move := .enter b.mode }
  | closes (b : Bracket) (rest : Text) (h : inside = some b) :
    StepIn inside { tokens := [⟨some .codeDelimiter, [b.closer]⟩], rest, move := .leave }
  | unmatched (b : Bracket) (rest : Text) (h : inside ≠ some b) :
    StepIn inside { tokens := [⟨some .codeDelimiter, [b.closer]⟩], rest, score := -1 }

/-- The rule declines the text, or takes a sound step of one of these ways. -/
abbrev Decides (inside : Option Bracket) (t : Text) (r : Rule ε) : Prop :=
  r.Decides (fun r => r.Does modeNames t) fun st => st.Sound t ∧ StepIn inside st

variable {inside : Option Bracket} {t : Text} {c : Char} {kind : TokenType}
  {kinds : List TokenType} {score : Int64} {source : String} {action : Action ε} {p : Pattern}
  {bodies : List Pattern.Matcher}

theorem decides_plain (h : Rule.Splits source p bodies)
    (hmarks : action.Marks modeNames kinds score .stay) (hlen : kinds.length = bodies.length)
    (hkinds : ∀ kind ∈ kinds, ¬ kind.IsA .stop ∧ kind ≠ .codeDelimiter)
    (hscore : ∀ parts, List.Forall₂ Pattern.Matcher.Matches bodies parts →
      scoreOf (tokensOf kinds parts) = score) (t : Text) :
    Decides inside t (.pattern source action) := by
  rcases h.does hmarks hlen t with ⟨-, hnone⟩ | ⟨parts, rest, rfl, hparts, -, hsome⟩
  · exact .inl hnone
  · refine .inr ⟨_, hsome, Step.sound_tokensOf (fun kind hk => (hkinds kind hk).1)
      (hlen.trans hparts.length_eq) (h.ne_nil hparts), .plain (hscore parts hparts).symm rfl ?_⟩
    intro token htoken
    obtain ⟨kind, hk, part, -, rfl⟩ := exists_of_mem_tokensOf htoken
    simpa using (hkinds kind hk).2

def isOnePart (_ : Pattern) (bodies : List Pattern.Matcher) : Bool := bodies.length = 1

theorem decides_one (h : Rule.splits source isOnePart = true)
    (hmarks : action.Marks modeNames [kind] score .stay)
    (hkind : ¬ kind.IsA .stop ∧ kind ≠ .codeDelimiter)
    (hscore : ∀ u, tokenScore ⟨some kind, u⟩ = score) (t : Text) :
    Decides inside t (.pattern source action) := by
  obtain ⟨p, bodies, h, hone⟩ := Rule.exists_of_splits h
  have hlen : bodies.length = 1 := of_decide_eq_true hone
  refine decides_plain h hmarks hlen.symm (by simpa using hkind) (fun parts hparts => ?_) t
  obtain ⟨part, rfl⟩ := List.length_eq_one_iff.1 (hparts.length_eq.symm.trans hlen)
  have hne : part ≠ [] := by simpa using h.ne_nil hparts
  simp [tokensOf, typed, hne, hscore]

/-- Whether the first part of a match begins with a number sign. -/
def isDirective (count : Nat) (_ : Pattern) : List Pattern.Matcher → Bool
  | first :: others =>
    others.length = count && !first.nullable && first.firsts.all (· = .single '#')
  | [] => false

theorem length_of_isDirective {count : Nat} {first : Pattern.Matcher}
    (h : isDirective count p (first :: bodies) = true) : bodies.length = count := by
  simp only [isDirective, Bool.and_eq_true, decide_eq_true_eq] at h
  exact h.1.1

theorem head?_of_isDirective {count : Nat} {first : Pattern.Matcher} {u : Text}
    (h : isDirective count p (first :: bodies) = true) (hu : first.Matches u) :
    u.head? = some '#' := by
  simp only [isDirective, Bool.and_eq_true, decide_eq_true_eq, Bool.not_eq_true',
    List.all_eq_true] at h
  obtain ⟨⟨-, hnull⟩, hfirsts⟩ := h
  obtain ⟨d, u, rfl⟩ := List.exists_cons_of_ne_nil (hu.ne_nil hnull)
  obtain ⟨s, hs, hd⟩ := hu.exists_first
  rw [hfirsts s hs, CharSet.contains_single, decide_eq_true_eq] at hd
  exact congrArg some hd

/-- A directive begins with a keyword, and what else it cuts off does not change the score. -/
theorem decides_directive (others : List TokenType)
    (h : Rule.splits source (isDirective others.length) = true)
    (hmarks : action.Marks modeNames (.codeIdentifierKeyword :: others) 2 .stay)
    (hkinds : ∀ kind ∈ others, Neutral kind) (t : Text) :
    Decides inside t (.pattern source action) := by
  obtain ⟨p, bodies, h, hdirective⟩ := Rule.exists_of_splits h
  cases bodies with
  | nil => cases hdirective
  | cons first bodies =>
    have hlen := length_of_isDirective hdirective
    refine decides_plain h hmarks (by simp [hlen]) ?_ (fun parts hparts => ?_) t
    · exact List.forall_mem_cons.2
        ⟨by decide, fun kind hk => ⟨(hkinds kind hk).1, (hkinds kind hk).ne_delimiter⟩⟩
    · cases hparts with
      | @cons _ part _ parts hpart hmore =>
        have hhead := head?_of_isDirective hdirective hpart
        have hzero : scoreOf (tokensOf others parts) = 0 := by
          refine scoreOf_eq_zero ?_
          intro token htoken
          obtain ⟨kind, hk, part, -, rfl⟩ := exists_of_mem_tokensOf htoken
          exact (hkinds kind hk).score part
        have htokens : tokensOf (.codeIdentifierKeyword :: others) (part :: parts)
            = ⟨some .codeIdentifierKeyword, part⟩ :: tokensOf others parts := by
          have hne : part ≠ [] := by rintro rfl; cases hhead
          simp [tokensOf, typed_cons, hne]
        have hscore : tokenScore ⟨some .codeIdentifierKeyword, part⟩ = 2 := by
          have hcomment : TokenType.codeIdentifierKeyword ≠ .codeComment := by decide
          simp [tokenScore, hhead, hcomment]
        rw [htokens, scoreOf_cons, hzero, hscore]
        rfl

theorem decides_scanIf {cond : Char → Bool} {scanner : Scanner} (h : scanner ≠ .number)
    (hkinds : ∀ kind ∈ scanner.kinds, Neutral kind) (t : Text) :
    Decides inside t (.procedure (.scanIf cond scanner) : Rule ε) := by
  cases hcond : t.head?.any cond with
  | false => exact .inl (Rule.does_scanIf_none hcond)
  | true =>
    have hne : t ≠ [] := by rintro rfl; cases hcond
    obtain ⟨token, rest, hrun, htoken⟩ := Scanner.exists_run h hne
    obtain ⟨kind, hmem, hkind⟩ := Scanner.kind_of_run hrun
    obtain ⟨kind?, u⟩ := token
    cases hkind
    have hneutral := hkinds kind hmem
    refine .inr ⟨_, Rule.does_scanIf_some hcond hrun htoken, ?_, .plain ?_ rfl ?_⟩
    · rw [← Scanner.append_of_run hrun]
      exact Step.sound_one hneutral.1 htoken
    · simp [hneutral.score]
    · simpa using hneutral.ne_delimiter

theorem does_procedure {u rest : Text} {procedure : Procedure ε} (kind : TokenType) (score : Int64)
    (ht : u ++ rest = t)
    (hrun : ∀ s : State ε, s.text = t → procedure.run s
      = (Procedure.addScore score (.emit kind (Text.byteSize u) (.done true))).run s) :
    (Rule.procedure procedure).Does modeNames t
      (some { tokens := [⟨some kind, u⟩], rest, score }) := by
  refine ⟨_, rfl, ?_⟩
  intro s c hs hnames hc
  have hemit : (s.addScore score).emit kind (Text.byteSize u)
      = .ok ({ s.addScore score with text := rest }.push ⟨some kind, u⟩) :=
    State.emit_byteSize (s := s.addScore score) (hs.trans ht.symm)
  refine ⟨{ s.addScore score with text := rest }.push ⟨some kind, u⟩, ?_, ?_, ?_⟩
  · simp only [CompiledRule.exec, hrun s hs, Procedure.run, hemit]
  · simpa [Situation.perform, Situation.moved, State.situation, State.push, State.addScore] using hc
  · simp [State.push, State.addScore]

/-- The types of words. -/
def words : List TokenType := [.codeIdentifier, .codeIdentifierFunction, .codeIdentifierLiteral,
  .codeIdentifierKeyword]

theorem wordKind_mem_words (word rest : Text) : wordKind word rest ∈ words := by
  unfold wordKind
  split
  · simp [words]
  · split
    · simp [words]
    · split <;> simp [words]

theorem wordKind_cases (word rest : Text) :
    ¬ (wordKind word rest).IsA .stop ∧ wordKind word rest ≠ .codeDelimiter ∧
      ∀ u, u.head? ≠ some '#' → tokenScore ⟨some (wordKind word rest), u⟩
        = if wordKind word rest = .codeIdentifierKeyword then 1 else 0 := by
  have hkind : ∀ kind ∈ words, ¬ kind.IsA .stop ∧ kind ≠ .codeDelimiter ∧
      kind ≠ .codeComment ∧ kind ≠ .textInvalid := by decide
  obtain ⟨hstop, hdelim, hcomment, hinvalid⟩ := hkind _ (wordKind_mem_words word rest)
  refine ⟨hstop, hdelim, ?_⟩
  intro u hu
  simp [tokenScore, hcomment, hinvalid, hu]

theorem append_of_word {u rest : Text} (h : Text.run Text.isIdentifierPart t = (u, rest)) :
    u ++ rest = t := by
  simpa [h] using Text.run_append Text.isIdentifierPart t

theorem does_identifier_none (h : t.head?.any Text.isIdentifierStart = false) :
    (Rule.procedure identifier : Rule ε).Does modeNames t none := by
  refine ⟨_, rfl, ?_⟩
  intro s hs
  simp [CompiledRule.exec, identifier, Procedure.run, hs, h]

theorem does_identifier_some {u rest : Text} (h : t.head?.any Text.isIdentifierStart = true)
    (hword : Text.run Text.isIdentifierPart t = (u, rest)) :
    (Rule.procedure identifier : Rule ε).Does modeNames t (some
      { tokens := [⟨some (wordKind u rest), u⟩], rest
        score := if wordKind u rest = .codeIdentifierKeyword then 1 else 0 }) := by
  refine does_procedure (wordKind u rest) _ (append_of_word hword) fun s hs => ?_
  simp only [identifier, Procedure.run, hs, h, if_true, hword]
  split
  · simp only [Procedure.run]
  · simp only [Procedure.run, State.addScore_zero]

theorem decides_identifier (t : Text) : Decides inside t (.procedure identifier : Rule ε) := by
  cases hstart : t.head?.any Text.isIdentifierStart with
  | false => exact .inl (does_identifier_none hstart)
  | true =>
    obtain ⟨u, rest, hword⟩ : ∃ u rest, Text.run Text.isIdentifierPart t = (u, rest) := ⟨_, _, rfl⟩
    have hu : u ≠ [] ∧ u.head? ≠ some '#' := by
      cases t with
      | nil => cases hstart
      | cons c t =>
        cases hword
        refine ⟨List.cons_ne_nil _ _, ?_⟩
        rintro hc
        cases hc
        cases hstart
    obtain ⟨hstop, hdelim, hscore⟩ := wordKind_cases u rest
    refine .inr ⟨_, does_identifier_some hstart hword,
      append_of_word hword ▸ Step.sound_one hstop hu.1, .plain ?_ rfl ?_⟩
    · simp [hscore u hu.2]
    · simpa using hdelim

theorem append_of_number {literal : Text.Literal} (h : t.number? = some literal) :
    literal.text ++ literal.rest.takeWhile isNumberSuffix
      ++ literal.rest.dropWhile isNumberSuffix = t := by
  rw [List.append_assoc, List.takeWhile_append_dropWhile]
  exact Text.append_of_number? h

theorem does_number_none (h : beginsNumber t = false ∨ t.number? = none) :
    (Rule.procedure number : Rule ε).Does modeNames t none := by
  refine ⟨_, rfl, ?_⟩
  intro s hs
  rcases h with h | h <;> simp [CompiledRule.exec, number, Procedure.run, hs, h]

theorem does_number_some {literal : Text.Literal} (h : beginsNumber t = true)
    (hnumber : t.number? = some literal) :
    (Rule.procedure number : Rule ε).Does modeNames t (some
      { tokens := [⟨some literal.kind, literal.text ++ literal.rest.takeWhile isNumberSuffix⟩]
        rest := literal.rest.dropWhile isNumberSuffix }) := by
  refine does_procedure literal.kind 0 (append_of_number hnumber) fun s hs => ?_
  simp only [number, Procedure.run, hs, h, if_true, hnumber, State.addScore_zero]

theorem decides_number (t : Text) : Decides inside t (.procedure number : Rule ε) := by
  cases hbegins : beginsNumber t with
  | false => exact .inl (does_number_none (.inl hbegins))
  | true =>
    cases hnumber : t.number? with
    | none => exact .inl (does_number_none (.inr hnumber))
    | some literal =>
      have hneutral : Neutral literal.kind :=
        (show ∀ kind ∈ TokenType.numbers, Neutral kind by decide) _ (Text.kind_of_number? hnumber)
      refine .inr ⟨_, does_number_some hbegins hnumber, ?_, .plain ?_ rfl ?_⟩
      · conv => rhs; rw [← append_of_number hnumber]
        exact Step.sound_one hneutral.1 (by simp [Text.text_ne_nil_of_number? hnumber])
      · simp [hneutral.score]
      · simpa using hneutral.ne_delimiter

theorem splits_opener (b : Bracket) :
    Rule.splits b.nesting.opener (Rule.takesOne (.single b.opener)) = true := by
  cases b <;> decide +kernel

theorem splits_closer (b : Bracket) :
    Rule.splits b.nesting.closer (Rule.takesOne (.single b.closer)) = true := by
  cases b <;> decide +kernel

theorem splits_closers : Rule.splits "[)\\]\x7d]"
    (Rule.takesOne (.ofChars [')', ']', '\x7d'])) = true := by decide +kernel

theorem splits_any : Rule.splits "(?s)." (Rule.takesOne .any) = true := by decide +kernel

theorem marks_delimiter : Action.Marks modeNames [.codeDelimiter] 0 .stay
    (.emit [.codeDelimiter] : Action ε) := Action.marks_emit

theorem does_one {chars : CharSet} {move : Move}
    (h : Rule.splits source (Rule.takesOne chars) = true)
    (hmarks : action.Marks modeNames [kind] score move) (t : Text) :
    (Rule.pattern source action).Does modeNames (c :: t)
      (if chars.contains c = true then some { tokens := [⟨some kind, [c]⟩], rest := t, score, move }
       else none) := by
  obtain ⟨p, bodies, h, hone⟩ := Rule.exists_of_splits h
  exact h.does_one hone hmarks t

theorem does_opener (b : Bracket) (t : Text) :
    (Rule.pattern b.nesting.opener ((Action.emit [.codeDelimiter]).andThen
      (.enter b.modeName)) : Rule ε).Does modeNames (c :: t)
      (if c = b.opener then
        some { tokens := [⟨some .codeDelimiter, [c]⟩], rest := t, move := .enter b.mode }
       else none) := by
  simpa using does_one (splits_opener b) (marks_delimiter.andThen_enter (idxOf?_modeName b)) t

theorem does_closer (b : Bracket) (t : Text) :
    (Rule.pattern b.nesting.closer ((Action.emit [.codeDelimiter]).andThen .exit) : Rule ε).Does
      modeNames (c :: t) (if c = b.closer then some
        { tokens := [⟨some .codeDelimiter, [c]⟩], rest := t, move := .leave } else none) := by
  simpa using does_one (splits_closer b) marks_delimiter.andThen_exit t

theorem does_any (t : Text) :
    (Rule.pattern "(?s)." ((Action.emit [.textInvalid]).andThen (.score (-1))) : Rule ε).Does
      modeNames (c :: t)
      (some { tokens := [⟨some .textInvalid, [c]⟩], rest := t, score := -1 }) := by
  simpa using does_one splits_any (Action.marks_emit.andThen_score (-1)) t

theorem decides_opener (b : Bracket) (t : Text) : Decides inside (c :: t)
    (.pattern b.nesting.opener ((Action.emit [.codeDelimiter]).andThen (.enter b.modeName)) :
      Rule ε) := by
  refine Rule.decides_of_ite (does_opener b t) ?_
  rintro rfl
  exact ⟨Step.sound_one (u := [b.opener]) (by decide) (by simp), .opens b t⟩

/-- In a mode whose closer does not come next the other closers are unmatched. -/
theorem decides_closers (hinside : ∀ b, inside = some b → c ≠ b.closer) (t : Text) :
    Decides inside (c :: t) (.pattern "[)\\]\x7d]"
      ((Action.emit [.codeDelimiter]).andThen (.score (-1))) : Rule ε) := by
  refine Rule.decides_of_ite (does_one splits_closers (marks_delimiter.andThen_score (-1)) t) ?_
  rw [CharSet.contains_ofChars]
  intro hc
  obtain ⟨b, rfl⟩ : ∃ b : Bracket, c = b.closer := by
    rcases List.mem_cons.1 (of_decide_eq_true hc) with rfl | hc
    · exact ⟨.paren, rfl⟩
    · rcases List.mem_cons.1 hc with rfl | hc
      · exact ⟨.square, rfl⟩
      · exact ⟨.brace, List.mem_singleton.1 hc⟩
  exact ⟨Step.sound_one (u := [b.closer]) (by decide) (by simp),
    .unmatched b t fun h => hinside b h rfl⟩

theorem comment_marks : Action.Marks modeNames [.codeComment] 1 .stay
    ((Action.emit [.codeComment]).andThen (.score 1) : Action ε) :=
  Action.marks_emit.andThen_score 1

theorem decides_neutral (h : Rule.splits source isOnePart = true) (hkind : Neutral kind)
    (t : Text) :
    Decides inside t (.single source kind : Rule ε) :=
  decides_one h Action.marks_emit ⟨hkind.1, hkind.ne_delimiter⟩ hkind.score t

theorem decides_body (hinside : ∀ b, inside = some b → c ≠ b.closer) (t : Text) :
    ∀ r ∈ (body (inside.map (·.nesting.closer)) : List (Rule ε)), Decides inside (c :: t) r := by
  simp only [body, List.forall_mem_append, List.forall_mem_cons, List.not_mem_nil, false_implies,
    implies_true, and_true]
  refine ⟨⟨⟨fun r hr => ?_, ?_⟩, fun r hr => ?_⟩, ?_⟩
  · obtain ⟨closer, hcloser, rfl⟩ := List.mem_map.1 hr
    obtain ⟨b, hb, rfl⟩ := Option.map_eq_some_iff.1 (Option.mem_toList.1 hcloser)
    have hdoes := does_closer (ε := ε) (c := c) b t
    rw [if_neg (hinside b hb)] at hdoes
    exact .inl hdoes
  · refine ⟨?_, ?_, ?_, ?_, ?_, ?_, ?_, ?_, decides_identifier _, decides_number _⟩
    · exact decides_scanIf (by decide) (by decide) _
    · exact decides_neutral (by decide +kernel) (by decide) _
    · exact decides_one (by decide +kernel) comment_marks (by decide) (fun _ => rfl) _
    · exact decides_one (by decide +kernel) comment_marks (by decide) (fun _ => rfl) _
    · exact decides_directive [.textWhiteSpace, .codeString] (by decide +kernel)
        (Action.marks_emit.andThen_score 2) (by decide) _
    · exact decides_directive [] (by decide +kernel)
        (Action.marks_emit.andThen_score 2) (by decide) _
    · exact decides_scanIf (by decide) (by decide) _
    · exact decides_scanIf (by decide) (by decide) _
  · rw [nestings_eq, List.map_map] at hr
    obtain ⟨b, -, rfl⟩ := List.mem_map.1 hr
    exact decides_opener b t
  · refine ⟨decides_closers hinside t, decides_neutral (by decide +kernel) (by decide) _,
      decides_neutral (by decide +kernel) (by decide) _, ?_⟩
    exact .inr ⟨_, does_any t, Step.sound_one (u := [c]) (by decide) (by simp),
      .plain rfl rfl (by simp; decide)⟩

/-- In every mode some rule takes a step, and it is of one of the four ways. -/
theorem exists_step (inside : Option Bracket) (hne : t ≠ []) :
    ∃ st, Selects (fun r : Rule ε => r.Does modeNames t) (body (inside.map (·.nesting.closer))) st ∧
      st.Sound t ∧ StepIn inside st := by
  obtain ⟨c, t, rfl⟩ := List.exists_cons_of_ne_nil hne
  by_cases hclose : ∃ b, inside = some b ∧ c = b.closer
  · obtain ⟨b, rfl, rfl⟩ := hclose
    have hdoes := does_closer (ε := ε) (c := b.closer) b t
    rw [if_pos rfl] at hdoes
    exact ⟨_, .here hdoes, Step.sound_one (u := [b.closer]) (by decide) (by simp), .closes b t rfl⟩
  · have hinside : ∀ b, inside = some b → c ≠ b.closer := fun b hb hc => hclose ⟨b, hb, hc⟩
    rcases selects_of_decides (decides_body hinside t) with hall | h
    · have hany := (does_any (ε := ε) (c := c) t).not_none
      exact (hany (hall _ (by simp [body]))).elim
    · exact h

end ModalLexer.Language.C
