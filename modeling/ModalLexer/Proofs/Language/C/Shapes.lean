import ModalLexer.Proofs.Language.C.Nesting
import ModalLexer.Proofs.Pattern.Extent
import ModalLexer.Proofs.Scanner.Extent

/-! # The shapes of tokens in the C family

What a token of each type looks like, and what may stand behind it in the text. Every rule cuts off
tokens of these shapes, and since the tokens and the text that is left make up the text, the shapes
can be seen in the text as a whole.
-/

namespace ModalLexer.Language.C

variable {ε : Type} {t u behind rest : Text} {c : Char} {kind : TokenType}
  {kinds : List TokenType} {parts : List Text} {score : Int64} {move : Move} {source : String}
  {action : Action ε}

/-- A word up to its end, of the type that it has as a keyword, as a literal, or in front of an
opening parenthesis. -/
structure IsWord (kind : TokenType) (u behind : Text) : Prop where
  begins : ∃ c, u.head? = some c ∧ (c = '_' || c.isAlpha) = true
  whole : Text.IsRun (fun c => c = '_' || c.isAlphanum) u behind
  keyword_iff : kind = .codeIdentifierKeyword ↔ String.ofList u ∈ keywords
  literal_iff : kind = .codeIdentifierLiteral ↔ String.ofList u ∈ literals
  function_iff : String.ofList u ∉ keywords → String.ofList u ∉ literals →
    (kind = .codeIdentifierFunction ↔
      ∃ gap more, (∀ c ∈ gap, c = ' ' ∨ c = '\t') ∧ behind = gap ++ '(' :: more)

/-- Two slashes and the rest of the line. -/
def IsLineComment (u behind : Text) : Prop :=
  (∃ body, u = '/' :: '/' :: body) ∧ '\n' ∉ u ∧ (behind = [] ∨ behind.head? = some '\n')

/-- Slash-star and the text up to the first star-slash behind it. -/
def IsStarComment (u behind : Text) : Prop :=
  ∃ body, u = '/' :: '*' :: (body ++ ['*', '/']) ∧ ∀ front back,
    body ++ '*' :: '/' :: behind = front ++ '*' :: '/' :: back → body.length ≤ front.length

/-- What a token of the given type looks like in front of the text behind it. Keywords that begin
with a number sign are those of directives. -/
def shape (kind : TokenType) (u behind : Text) : Prop :=
  if kind = .textWhiteSpace then Text.IsRun Text.isBlank u behind
  else if kind = .textNewLine then Text.IsRun (fun c => c = '\n' || c = '\r') u behind
  else if kind ∈ words then
    kind = .codeIdentifierKeyword ∧ u.head? = some '#' ∨ IsWord kind u behind
  else if kind = .codeComment then IsLineComment u behind ∨ IsStarComment u behind
  else if kind = .codeStringDouble then u.head? = some '"' ∧ Text.StringEnds '"' u behind
  else if kind = .codeStringSingle then u.head? = some '\'' ∧ Text.StringEnds '\'' u behind
  else True

/-- The token has the shape of its type. -/
def Lexical (token : Token) (behind : Text) : Prop :=
  ∀ kind, token.kind = some kind → shape kind token.text behind

theorem lexical_some : Lexical ⟨some kind, u⟩ behind ↔ shape kind u behind := by
  constructor
  · intro h
    exact h kind rfl
  · rintro h _ ⟨⟩
    exact h

/-- Tokens of the type may look in any way. -/
def Free (kind : TokenType) : Prop :=
  kind ∉ words ∧
    kind ∉ [TokenType.textWhiteSpace, .textNewLine, .codeComment, .codeStringDouble,
      .codeStringSingle]

instance (kind : TokenType) : Decidable (Free kind) := inferInstanceAs (Decidable (_ ∧ _))

theorem Free.shape (h : Free kind) : shape kind u behind := by
  obtain ⟨hword, hkind⟩ := h
  simp only [List.mem_cons, List.not_mem_nil, or_false, not_or] at hkind
  simp [C.shape, hkind, hword]

theorem shape_of_mem_words (hkind : kind ∈ words)
    (h : kind = .codeIdentifierKeyword ∧ u.head? = some '#' ∨ IsWord kind u behind) :
    shape kind u behind := by
  have hne : ∀ kind ∈ words, kind ≠ .textWhiteSpace ∧ kind ≠ .textNewLine := by decide
  rw [shape, if_neg (hne kind hkind).1, if_neg (hne kind hkind).2, if_pos hkind]
  exact h

theorem shape_comment (h : IsLineComment u behind ∨ IsStarComment u behind) :
    shape .codeComment u behind := by
  rw [shape, if_neg (by decide), if_neg (by decide), if_neg (by decide), if_pos rfl]
  exact h

/-- The tokens have the shapes of their types, each in front of the later ones and the text behind
them all. -/
def AllLexical : List Token → Text → Prop
  | [], _ => True
  | token :: ts, behind => Lexical token (Token.join ts ++ behind) ∧ AllLexical ts behind

theorem allLexical_append {ts us : List Token} : AllLexical (ts ++ us) behind ↔
    AllLexical ts (Token.join us ++ behind) ∧ AllLexical us behind := by
  induction ts with
  | nil => simp [AllLexical]
  | cons token ts ih => simp [AllLexical, ih, and_assoc]

theorem allLexical_one : AllLexical [⟨some kind, u⟩] behind ↔ shape kind u behind := by
  simp [AllLexical, lexical_some]

theorem allLexical_tokensOf_cons (hlen : kinds.length = parts.length)
    (hpart : u ≠ [] → shape kind u (parts.flatten ++ rest))
    (hmore : AllLexical (tokensOf kinds parts) rest) :
    AllLexical (tokensOf (kind :: kinds) (u :: parts)) rest := by
  rw [← join_tokensOf hlen] at hpart
  by_cases hu : u = []
  · simpa [tokensOf, typed_cons, hu] using hmore
  · have htokens : tokensOf (kind :: kinds) (u :: parts)
        = ⟨some kind, u⟩ :: tokensOf kinds parts := by
      simp [tokensOf, typed_cons, hu]
    rw [htokens]
    exact ⟨lexical_some.2 (hpart hu), hmore⟩

theorem beginsCall_iff : beginsCall t = true ↔
    ∃ gap more, (∀ c ∈ gap, c = ' ' ∨ c = '\t') ∧ t = gap ++ '(' :: more := by
  rw [beginsCall, decide_eq_true_eq]
  constructor
  · intro h
    obtain ⟨more, hmore⟩ := List.head?_eq_some_iff.1 h
    refine ⟨_, more, ?_, by rw [← hmore, List.takeWhile_append_dropWhile]⟩
    intro c hc
    simpa using List.all_eq_true.1 List.all_takeWhile c hc
  · rintro ⟨gap, more, hgap, rfl⟩
    rw [List.dropWhile_append_of_pos fun c hc => by simpa using hgap c hc]
    simp

theorem wordKind_eq_keyword_iff :
    wordKind u behind = .codeIdentifierKeyword ↔ String.ofList u ∈ keywords := by
  unfold wordKind
  split
  · next hkeyword => exact iff_of_true rfl hkeyword
  · next hkeyword =>
    refine iff_of_false ?_ hkeyword
    split
    · decide
    · split <;> decide

theorem wordKind_eq_literal_iff :
    wordKind u behind = .codeIdentifierLiteral ↔ String.ofList u ∈ literals := by
  have hdisjoint : ∀ word ∈ keywords, word ∉ literals := by decide
  unfold wordKind
  split
  · next hkeyword => exact iff_of_false (by decide) (hdisjoint _ hkeyword)
  · split
    · next hliteral => exact iff_of_true rfl hliteral
    · next hliteral =>
      refine iff_of_false ?_ hliteral
      split <;> decide

theorem wordKind_eq_function_iff (hkeyword : String.ofList u ∉ keywords)
    (hliteral : String.ofList u ∉ literals) :
    wordKind u behind = .codeIdentifierFunction ↔ beginsCall behind = true := by
  rw [wordKind, if_neg hkeyword, if_neg hliteral]
  split
  · next hcall => exact iff_of_true rfl hcall
  · next hcall => exact iff_of_false (by decide) hcall

theorem isWord_wordKind (hbegins : ∃ c, u.head? = some c ∧ Text.isIdentifierStart c = true)
    (hwhole : Text.IsRun Text.isIdentifierPart u behind) :
    IsWord (wordKind u behind) u behind where
  begins := hbegins
  whole := hwhole
  keyword_iff := wordKind_eq_keyword_iff
  literal_iff := wordKind_eq_literal_iff
  function_iff hkeyword hliteral :=
    (wordKind_eq_function_iff hkeyword hliteral).trans beginsCall_iff

/-- The rule declines the text, or takes a step to tokens of the right shapes. -/
abbrev Shapes (t : Text) (r : Rule ε) : Prop :=
  r.Decides (fun r => r.Does modeNames t) fun st => AllLexical st.tokens st.rest

theorem shapes_pattern {p : Pattern} {bodies : List Pattern.Matcher}
    (h : Rule.Splits source p bodies) (hmarks : action.Marks modeNames kinds score move)
    (hlen : kinds.length = bodies.length)
    (hshapes : ∀ parts rest, List.Forall₂ Pattern.Matcher.Matches bodies parts →
      (∀ m, p.body? = some m → m.Takes parts.flatten rest) →
      AllLexical (tokensOf kinds parts) rest) (t : Text) :
    Shapes t (.pattern source action) := by
  rcases h.does hmarks hlen t with ⟨-, hnone⟩ | ⟨parts, rest, rfl, hparts, hsearch, hsome⟩
  · exact .inl hnone
  · exact .inr ⟨_, hsome, hshapes parts rest hparts fun m hm => Pattern.takes_of_search hm hsearch⟩

theorem shapes_one (check : Pattern → Bool)
    (h : Rule.splits source (fun p bodies => check p && isOnePart p bodies) = true)
    (hmarks : action.Marks modeNames [kind] score move)
    (hshape : ∀ p u rest, check p = true → (∀ m, p.body? = some m → m.Takes u rest) →
      shape kind u rest) (t : Text) : Shapes t (.pattern source action) := by
  obtain ⟨p, bodies, h, hcheck⟩ := Rule.exists_of_splits h
  obtain ⟨hcheck, hone⟩ := Bool.and_eq_true_iff.1 hcheck
  have hlen : bodies.length = 1 := of_decide_eq_true hone
  refine shapes_pattern h hmarks hlen.symm (fun parts rest hparts htakes => ?_) t
  obtain ⟨u, rfl⟩ := List.length_eq_one_iff.1 (hparts.length_eq.symm.trans hlen)
  have hu : ∀ m, p.body? = some m → m.Takes u rest := by simpa using htakes
  exact allLexical_tokensOf_cons rfl (fun _ => hshape p u rest hcheck hu) trivial

theorem shapes_part (m : Pattern.Matcher)
    (h : Rule.splits source
      (fun p bodies => decide (p.body? = some m) && isOnePart p bodies) = true)
    (hmarks : action.Marks modeNames [kind] score move)
    (hshape : ∀ u rest, m.Takes u rest → shape kind u rest) (t : Text) :
    Shapes t (.pattern source action) := by
  refine shapes_one (fun p => decide (p.body? = some m)) h hmarks ?_ t
  intro p u rest hbody htakes
  exact hshape u rest (htakes m (of_decide_eq_true hbody))

theorem shapes_free (h : Rule.splits source isOnePart = true)
    (hmarks : action.Marks modeNames [kind] score move) (hkind : Free kind) (t : Text) :
    Shapes t (.pattern source action) :=
  shapes_one (fun _ => true) h hmarks (fun _ _ _ _ _ => hkind.shape) t

theorem shapes_character {r : Rule ε} {q : Prop} [Decidable q]
    (h : r.Does modeNames t (if q then some { tokens := [⟨some kind, u⟩], rest, score, move }
      else none)) (hkind : Free kind) : Shapes t r :=
  Rule.decides_of_ite h fun _ => allLexical_one.2 hkind.shape

section

open Pattern (Matcher)

def lineBreaks : Matcher := .plus (.set (.ofChars ['\n', '\r'])) false

theorem shape_lineBreaks (h : lineBreaks.Takes u rest) : shape .textNewLine u rest := by
  rw [shape, if_neg (by decide), if_pos rfl]
  constructor
  · intro c hc
    obtain ⟨s, hs, hcontains⟩ := h.matches.exists_set hc
    rw [List.mem_singleton.1 hs, CharSet.contains_ofChars] at hcontains
    simpa using hcontains
  · intro c hc
    have hstops := h.stops rfl c hc
    rw [CharSet.contains_ofChars] at hstops
    simpa using hstops

def lineComment : Matcher :=
  .cat (.pair '/' '/') (.alt (.plus (.set (CharSet.ofChars ['\n']).compl) false) .empty)

theorem shape_lineComment (h : lineComment.Takes u rest) : shape .codeComment u rest := by
  refine shape_comment (.inl ?_)
  obtain ⟨front, body, rfl, hfront, hbody⟩ := h.matches.of_cat
  rw [hfront.of_pair]
  refine ⟨⟨body, rfl⟩, ?_, ?_⟩
  · intro hline
    simp only [List.cons_append, List.nil_append, List.mem_cons] at hline
    obtain ⟨s, hs, hcontains⟩ := hbody.exists_set
      ((hline.resolve_left (by decide)).resolve_left (by decide))
    rw [List.mem_singleton.1 hs, CharSet.contains_compl_ofChars] at hcontains
    simp at hcontains
  · cases rest with
    | nil => exact .inl rfl
    | cons c rest =>
      have hstops := h.stops rfl c rfl
      rw [CharSet.contains_compl_ofChars] at hstops
      exact .inr (by simpa using hstops)

def starComment : Matcher := .cat (.pair '/' '*') (.cat (.few .any) (.pair '*' '/'))

theorem shape_starComment (h : starComment.Takes u rest) : shape .codeComment u rest :=
  shape_comment (.inr h.between)

theorem shapes_directive (h : Rule.splits source (isDirective 0) = true)
    (hmarks : action.Marks modeNames [.codeIdentifierKeyword] score move) (t : Text) :
    Shapes t (.pattern source action) := by
  obtain ⟨p, bodies, h, hdirective⟩ := Rule.exists_of_splits h
  cases bodies with
  | nil => cases hdirective
  | cons first bodies =>
    obtain rfl := List.length_eq_zero_iff.1 (length_of_isDirective hdirective)
    refine shapes_pattern h hmarks rfl (fun parts rest hparts _ => ?_) t
    cases hparts with
    | cons hkeyword hmore =>
      cases hmore
      have hhead := head?_of_isDirective hdirective hkeyword
      exact allLexical_tokensOf_cons rfl
        (fun _ => shape_of_mem_words (by decide) (.inl ⟨rfl, hhead⟩)) trivial

/-- Whether the last two parts of a match are blanks and something that begins with a quote or an
angle bracket. -/
def isSpaced (bodies : List Matcher) : Bool :=
  match bodies with
  | [_, gap, name] => gap.sets.all (· = .ofChars ['\t', ' ']) && !name.nullable &&
      name.firsts.all fun s => s = .single '<' || s = .single '"'
  | _ => false

theorem isRun_of_isSpaced {first gap name : Matcher} {w : Text}
    (h : isSpaced [first, gap, name] = true) (hgap : gap.Matches u) (hname : name.Matches w) :
    Text.IsRun Text.isBlank u (w ++ rest) := by
  simp only [isSpaced, Bool.and_eq_true, List.all_eq_true, decide_eq_true_eq, Bool.not_eq_true',
    Bool.or_eq_true] at h
  obtain ⟨⟨hblank, hnull⟩, hfirsts⟩ := h
  constructor
  · intro c hc
    obtain ⟨s, hs, hcontains⟩ := hgap.exists_set hc
    rw [hblank s hs, CharSet.contains_ofChars] at hcontains
    have hc : c = '\t' ∨ c = ' ' := by simpa using hcontains
    rcases hc with rfl | rfl <;> decide
  · intro c hc
    obtain ⟨d, w, rfl⟩ := List.exists_cons_of_ne_nil (hname.ne_nil hnull)
    cases hc
    obtain ⟨s, hs, hcontains⟩ := hname.exists_first
    rcases hfirsts s hs with rfl | rfl
    · rw [CharSet.contains_single, decide_eq_true_eq] at hcontains
      rw [hcontains]
      decide
    · rw [CharSet.contains_single, decide_eq_true_eq] at hcontains
      rw [hcontains]
      decide

theorem shapes_include
    (h : Rule.splits source (fun p bodies => isDirective 2 p bodies && isSpaced bodies) = true)
    (hmarks : action.Marks modeNames [.codeIdentifierKeyword, .textWhiteSpace, .codeString] score
      move) (t : Text) : Shapes t (.pattern source action) := by
  obtain ⟨p, bodies, h, hinclude⟩ := Rule.exists_of_splits h
  obtain ⟨hdirective, hspaced⟩ := Bool.and_eq_true_iff.1 hinclude
  match bodies, hspaced with
  | [first, gap, name], hspaced =>
    refine shapes_pattern h hmarks rfl (fun parts rest hparts _ => ?_) t
    match parts, hparts with
    | [keyword, blanks, file], .cons hkeyword (.cons hblanks (.cons hfile .nil)) =>
      have hhead := head?_of_isDirective hdirective hkeyword
      have hrun : Text.IsRun Text.isBlank blanks (file ++ rest) :=
        isRun_of_isSpaced hspaced hblanks hfile
      refine allLexical_tokensOf_cons rfl
        (fun _ => shape_of_mem_words (by decide) (.inl ⟨rfl, hhead⟩)) ?_
      refine allLexical_tokensOf_cons rfl (fun _ => ?_) ?_
      · rw [shape, if_pos rfl]
        simpa using hrun
      · exact allLexical_tokensOf_cons rfl (fun _ => Free.shape (by decide)) trivial

end

theorem shapes_scanIf {cond : Char → Bool} {scanner : Scanner} (h : scanner ≠ .number)
    (hshape : ∀ c t token rest, cond c = true → scanner.run (c :: t) = some (token, rest) →
      Lexical token rest) (t : Text) : Shapes t (.procedure (.scanIf cond scanner) : Rule ε) := by
  cases t with
  | nil => exact .inl (Rule.does_scanIf_none rfl)
  | cons c t =>
    cases hcond : cond c with
    | false => exact .inl (Rule.does_scanIf_none hcond)
    | true =>
      obtain ⟨token, rest, hrun, htoken⟩ := Scanner.exists_run h (List.cons_ne_nil c t)
      exact .inr ⟨_, Rule.does_scanIf_some hcond hrun htoken,
        hshape c t token rest hcond hrun, trivial⟩

theorem lexical_whitespace {token : Token} (hc : Text.isBlank c = true)
    (h : Scanner.whitespace.run (c :: t) = some (token, rest)) : Lexical token rest := by
  cases h
  rw [lexical_some, shape, if_pos rfl]
  exact (Text.isRun_splitWhile Text.isBlank t).cons hc

theorem lexical_doubleQuoted {token : Token}
    (h : Scanner.doubleQuoted.run ('"' :: t) = some (token, rest)) : Lexical token rest := by
  cases h
  rw [lexical_some, shape, if_neg (by decide), if_neg (by decide), if_neg (by decide),
    if_neg (by decide), if_pos rfl]
  exact ⟨rfl, Text.stringEnds_splitQuoted (by decide) t⟩

theorem lexical_singleQuoted {token : Token}
    (h : Scanner.singleQuoted.run ('\'' :: t) = some (token, rest)) : Lexical token rest := by
  cases h
  rw [lexical_some, shape, if_neg (by decide), if_neg (by decide), if_neg (by decide),
    if_neg (by decide), if_neg (by decide), if_pos rfl]
  exact ⟨rfl, Text.stringEnds_splitQuoted (by decide) t⟩

theorem shapes_identifier (t : Text) : Shapes t (.procedure identifier : Rule ε) := by
  cases t with
  | nil => exact .inl (does_identifier_none rfl)
  | cons c t =>
    cases hstart : Text.isIdentifierStart c with
    | false => exact .inl (does_identifier_none hstart)
    | true =>
      have hpart : Text.isIdentifierPart c = true := by
        simp only [Text.isIdentifierStart, Bool.or_eq_true] at hstart
        simp only [Text.isIdentifierPart, Char.isAlphanum, Bool.or_eq_true]
        exact hstart.imp_right .inl
      have hwhole := (Text.isRun_splitWhile Text.isIdentifierPart t).cons hpart
      have hword := isWord_wordKind ⟨c, rfl, hstart⟩ hwhole
      exact .inr ⟨_, does_identifier_some hstart rfl,
        allLexical_one.2 (shape_of_mem_words (wordKind_mem_words _ _) (.inr hword))⟩

theorem shapes_number (t : Text) : Shapes t (.procedure number : Rule ε) := by
  cases hbegins : beginsNumber t with
  | false => exact .inl (does_number_none (.inl hbegins))
  | true =>
    cases hnumber : t.number? with
    | none => exact .inl (does_number_none (.inr hnumber))
    | some literal =>
      have hfree : Free literal.kind :=
        (show ∀ kind ∈ TokenType.numbers, Free kind by decide) _ (Text.kind_of_number? hnumber)
      exact .inr ⟨_, does_number_some hbegins hnumber, allLexical_one.2 hfree.shape⟩

theorem shapes_body (inside : Option Bracket) (c : Char) (t : Text) :
    ∀ r ∈ (body (inside.map (·.nesting.closer)) : List (Rule ε)), Shapes (c :: t) r := by
  simp only [body, List.forall_mem_append, List.forall_mem_cons, List.not_mem_nil, false_implies,
    implies_true, and_true]
  refine ⟨⟨⟨fun r hr => ?_, ?_⟩, fun r hr => ?_⟩, ?_⟩
  · obtain ⟨closer, hcloser, rfl⟩ := List.mem_map.1 hr
    obtain ⟨b, -, rfl⟩ := Option.map_eq_some_iff.1 (Option.mem_toList.1 hcloser)
    exact shapes_character (does_closer b t) (by decide)
  · refine ⟨?_, ?_, ?_, ?_, ?_, ?_, ?_, ?_, shapes_identifier _, shapes_number _⟩
    · exact shapes_scanIf (by decide) (fun c t token rest => lexical_whitespace) _
    · exact shapes_part lineBreaks (by decide +kernel) Action.marks_emit
        (fun _ _ => shape_lineBreaks) _
    · exact shapes_part lineComment (by decide +kernel) comment_marks
        (fun _ _ => shape_lineComment) _
    · exact shapes_part starComment (by decide +kernel) comment_marks
        (fun _ _ => shape_starComment) _
    · exact shapes_include (by decide +kernel) (Action.marks_emit.andThen_score 2) _
    · exact shapes_directive (by decide +kernel) (Action.marks_emit.andThen_score 2) _
    · refine shapes_scanIf (by decide) (fun c t token rest hc hrun => ?_) _
      rw [of_decide_eq_true hc] at hrun
      exact lexical_doubleQuoted hrun
    · refine shapes_scanIf (by decide) (fun c t token rest hc hrun => ?_) _
      rw [of_decide_eq_true hc] at hrun
      exact lexical_singleQuoted hrun
  · rw [nestings_eq, List.map_map] at hr
    obtain ⟨b, -, rfl⟩ := List.mem_map.1 hr
    exact shapes_character (does_opener b t) (by decide)
  · refine ⟨?_, ?_, ?_, ?_⟩
    · exact shapes_character (does_one splits_closers (marks_delimiter.andThen_score (-1)) t)
        (by decide)
    · exact shapes_free (by decide +kernel) Action.marks_emit (by decide) _
    · exact shapes_free (by decide +kernel) Action.marks_emit (by decide) _
    · exact .inr ⟨_, does_any t, allLexical_one.2 (Free.shape (by decide))⟩

/-- The modes are nested, the tokens are the text that has been taken, and they have the shapes of
their types in it. -/
structure Shaped (text : Text) (ts : List Token) (c : Situation) : Prop where
  nested : Nested ts c
  text : Token.join ts ++ c.text = text
  lexical : AllLexical ts c.text

theorem keeps_shaped (text : Text) : (grammar : Grammar ε).Keeps (Shaped text) := by
  intro ts c h hne
  obtain ⟨st, c', hstep, hnested⟩ := keeps_nested (ε := ε) ts c h.nested hne
  have hlexical : AllLexical st.tokens st.rest := by
    obtain ⟨-, -, modes, mode, hmodes, hmode, hsel⟩ := hstep
    obtain rfl : allModes = modes := Option.some.inj (grammar_modes.symm.trans hmodes)
    rw [h.nested.within.getElem?_allModes] at hmode
    cases hmode
    obtain ⟨d, rest, htext⟩ := List.exists_cons_of_ne_nil hne
    rw [htext] at hsel
    obtain ⟨r, hr, hdoes⟩ := hsel.exists_rule
    exact (shapes_body _ d rest r hr).of_does (fun _ _ h h' => h.unique h') hdoes
  have hrest := hstep.text
  have hjoin := hstep.1.text
  refine ⟨st, c', hstep, hnested, ?_, ?_⟩
  · rw [Token.join_append, List.append_assoc, hrest, hjoin, h.text]
  · rw [hrest, allLexical_append, hjoin]
    exact ⟨h.lexical, hlexical⟩

theorem Shaped.endOfText {text : Text} {ts : List Token} {c : Situation} (h : Shaped text ts c) :
    Shaped text (ts ++ [Engine.endOfText]) c := by
  have hend : AllLexical [Engine.endOfText] c.text := allLexical_one.2 (Free.shape (by decide))
  refine ⟨h.nested.endOfText, ?_, allLexical_append.2 ⟨h.lexical, hend⟩⟩
  have htext := h.text
  rw [Token.join_append]
  simpa [Engine.endOfText] using htext

/-- After any number of requests every token has the shape of its type, in front of the text that
stands behind it. -/
theorem tokens_have_shapes (text : Text) :
    ∃ e, Engine.start (grammar : Grammar ε) text = .ok e ∧ ∀ n, ∃ r, e.pulls n = .ok r ∧
      ∀ front token back, r.tokens = front ++ token :: back →
        ∃ behind, Token.join front ++ token.text ++ behind = text ∧ Lexical token behind := by
  obtain ⟨compiled, hcompiled⟩ := exists_compile (ε := ε)
  have hstart : Shaped text [] (.start text) := ⟨nested_nil text, rfl, trivial⟩
  obtain ⟨e, he, hpulls⟩ := Engine.exists_start_tracks (keeps_shaped text) plain_grammar hcompiled
    grammar_modes hstart
  refine ⟨e, he, ?_⟩
  intro n
  obtain ⟨r, hr, htracks, -⟩ := hpulls n
  refine ⟨r, hr, ?_⟩
  intro front token back htokens
  -- What is queued stands behind the tokens that have been returned.
  obtain ⟨queued, c, hshaped⟩ : ∃ queued c, Shaped text (r.tokens ++ queued) c := by
    generalize r.tokens = ts at htracks
    cases htracks with
    | live h hI => exact ⟨_, _, hI⟩
    | ended hstop hI => exact ⟨[], _, by simpa using hI.endOfText⟩
  have hsplit : r.tokens ++ queued = front ++ token :: (back ++ queued) := by
    rw [htokens, List.append_assoc, List.cons_append]
  refine ⟨Token.join (back ++ queued) ++ c.text, ?_, ?_⟩
  · have htext := hshaped.text
    rw [hsplit, Token.join_append, Token.join_cons] at htext
    simpa only [List.append_assoc] using htext
  · have hlexical := hshaped.lexical
    rw [hsplit, allLexical_append] at hlexical
    exact hlexical.2.1

end ModalLexer.Language.C
