import ModalLexer.Proofs.Pattern.Evaluation
import ModalLexer.Proofs.Rule.Steps
import ModalLexer.Proofs.Scanner.Kinds
import ModalLexer.Proofs.Scanner.Literals
import ModalLexer.Proofs.Scanner.Safety
import ModalLexer.Rule.Predefined

/-! # Predefined rules and scanners

The predefined rules for line breaks, identifiers, comments, and hexadecimal and octal numbers take
the tokens that the scanners of these names take. A rule looks at the opener by itself, which the
scanner leaves to its caller, and declines where the scanner should not be called.
-/

namespace ModalLexer

variable {ε : Type}

namespace CharSet

variable {s : CharSet} {c : Char}

theorem exists_of_inRanges {n : Nat} {rs : List (Nat × Nat)} (h : inRanges n rs = true) :
    ∃ r ∈ rs, n ≤ r.2 := by
  induction rs with
  | nil => cases h
  | cons r rs ih =>
    simp only [inRanges] at h
    split at h
    · cases h
    rcases Bool.or_eq_true_iff.1 h with hle | hmore
    · exact ⟨r, List.mem_cons_self, of_decide_eq_true hle⟩
    · obtain ⟨r', hr', hle⟩ := ih hmore
      exact ⟨r', List.mem_cons_of_mem r hr', hle⟩

/-- Two classes of ASCII characters are equal if they are on ASCII. -/
theorem contains_eq_of_isAscii {p : Char → Bool} (hs : s.isAscii = true)
    (hp : ∀ c, p c = true → Text.IsAscii c)
    (hascii : ∀ n : Fin 128, s.contains (Char.ofNat n) = p (Char.ofNat n)) (c : Char) :
    s.contains c = p c := by
  by_cases hc : Text.IsAscii c
  · have h := hascii ⟨c.toNat, hc⟩
    rwa [Char.ofNat_toNat] at h
  · have hcontains : s.contains c = false := by
      refine Bool.eq_false_iff.2 fun hmem => hc ?_
      obtain ⟨r, hr, hle⟩ := exists_of_inRanges hmem
      have hlt := of_decide_eq_true (List.all_eq_true.1 hs r hr)
      exact Nat.lt_of_le_of_lt hle hlt
    have hclass : p c = false := Bool.eq_false_iff.2 fun h => hc (hp c h)
    rw [hcontains, hclass]

def digits : CharSet := range '0' '9'

def octalDigits : CharSet := range '0' '7'

def hexDigits : CharSet := ofRanges [(48, 57), (65, 70), (97, 102)]

/-- Letters and the underscore. -/
def letters : CharSet := ofRanges [(65, 90), (95, 95), (97, 122)]

/-- Letters, digits and the underscore. -/
def wordCharacters : CharSet := ofRanges [(48, 57), (65, 90), (95, 95), (97, 122)]

@[simp] theorem contains_digits : digits.contains c = c.isDigit :=
  contains_eq_of_isAscii rfl (fun _ => Bytes.isAscii_of_isDigit) (by decide +kernel) c

@[simp] theorem contains_octalDigits : octalDigits.contains c = Text.isOctalDigit c :=
  contains_eq_of_isAscii rfl (fun _ => Bytes.isAscii_of_isOctalDigit) (by decide +kernel) c

@[simp] theorem contains_hexDigits : hexDigits.contains c = Text.isHexDigit c := by
  refine contains_eq_of_isAscii (by decide) (fun c h => ?_) (by decide +kernel) c
  simp only [Text.isHexDigit, Bool.or_eq_true, Bool.and_eq_true, decide_eq_true_eq] at h
  rcases h with (hdigit | ⟨-, hlower⟩) | ⟨-, hupper⟩
  · exact Bytes.isAscii_of_isDigit hdigit
  · exact Bytes.isAscii_of_le hlower (by decide)
  · exact Bytes.isAscii_of_le hupper (by decide)

theorem isAscii_of_isIdentifierPart (h : Text.isIdentifierPart c = true) : Text.IsAscii c := by
  simp only [Text.isIdentifierPart, Char.isAlphanum, Bool.or_eq_true, decide_eq_true_eq] at h
  rcases h with rfl | hletter | hdigit
  · decide
  · rcases Bool.or_eq_true_iff.1 hletter with hupper | hlower
    · have hle : c ≤ 'Z' := (of_decide_eq_true hupper).2
      exact Bytes.isAscii_of_le hle (by decide)
    · have hle : c ≤ 'z' := of_decide_eq_true (Bool.and_eq_true_iff.1 hlower).2
      exact Bytes.isAscii_of_le hle (by decide)
  · exact Bytes.isAscii_of_isDigit hdigit

@[simp] theorem contains_wordCharacters :
    wordCharacters.contains c = Text.isIdentifierPart c :=
  contains_eq_of_isAscii (by decide) (fun _ => isAscii_of_isIdentifierPart) (by decide +kernel) c

@[simp] theorem contains_letters : letters.contains c = Text.isIdentifierStart c := by
  refine contains_eq_of_isAscii (by decide) (fun c h => ?_) (by decide +kernel) c
  apply isAscii_of_isIdentifierPart
  simp only [Text.isIdentifierStart, Bool.or_eq_true] at h
  simp only [Text.isIdentifierPart, Char.isAlphanum, Bool.or_eq_true]
  exact h.imp_right .inl

end CharSet

namespace Text

variable {t : Text}

theorem splitWhile_eq (p : Char → Bool) (t : Text) :
    splitWhile p t = (t.takeWhile p, t.dropWhile p) := by
  fun_induction splitWhile p t with
  | case1 => rfl
  | case2 c t hc head tail heq ih =>
    cases heq.symm.trans ih
    rw [List.takeWhile_cons_of_pos hc, List.dropWhile_cons_of_pos hc]
  | case3 c t hc => rw [List.takeWhile_cons_of_neg hc, List.dropWhile_cons_of_neg hc]

theorem splitBehindOpener_two {split : Text → Text × Text} {c d : Char} (hc : IsAscii c)
    (hd : IsAscii d) (t : Text) :
    splitBehindOpener 2 split (c :: d :: t) = (c :: d :: (split t).1, (split t).2) := by
  simp [splitBehindOpener, splitCovering, utf8Size_of_isAscii hc, utf8Size_of_isAscii hd]

/-- The text holds the end of a comment that has been begun. -/
def ClosesComment (t : Text) : Prop := ∃ front back, t = front ++ '*' :: '/' :: back

theorem closesComment_cons {c d : Char} :
    ClosesComment (c :: d :: t) ↔ (c = '*' ∧ d = '/') ∨ ClosesComment (d :: t) := by
  constructor
  · rintro ⟨front, back, h⟩
    cases front with
    | nil =>
      obtain ⟨hc, h⟩ := List.cons.inj h
      exact .inl ⟨hc, (List.cons.inj h).1⟩
    | cons e front => exact .inr ⟨front, back, (List.cons.inj h).2⟩
  · rintro (⟨rfl, rfl⟩ | ⟨front, back, h⟩)
    · exact ⟨[], t, rfl⟩
    · exact ⟨c :: front, back, by rw [h]; rfl⟩

end Text

namespace Pattern.Matcher

variable {k : Text → Option Text} {c d : Char} {t rest : Text}

@[simp] theorem rest?_pair_nil : (pair c d).rest? k [] = none := rfl

@[simp] theorem rest?_pair_one {e : Char} : (pair c d).rest? k [e] = none := by
  simp [pair]

@[simp] theorem rest?_pair_cons {e f : Char} :
    (pair c d).rest? k (e :: f :: t) = if e = c ∧ f = d then k t else none := by
  simp only [pair, rest?_cat, rest?_set_cons, CharSet.contains_single, decide_eq_true_eq]
  split
  · next he => simp [he]
  · next he => simp [he]

theorem rest?_pair_of_ne (h : ¬ ∃ rest, t = c :: d :: rest) : (pair c d).rest? k t = none := by
  match t, h with
  | [], _ => rfl
  | [e], _ => exact rest?_pair_one
  | e :: f :: rest, h =>
    rw [rest?_pair_cons, if_neg]
    rintro ⟨rfl, rfl⟩
    exact h ⟨rest, rfl⟩

section

variable {s : CharSet} {p : Char → Bool}

theorem dropWhile_contains (hs : ∀ c, s.contains c = p c) (t : Text) :
    t.dropWhile s.contains = (Text.splitWhile p t).2 := by
  obtain rfl : s.contains = p := funext hs
  rw [Text.splitWhile_eq]

theorem rest?_star_some (hs : ∀ c, s.contains c = p c) (t : Text) :
    (star (set s) false).rest? some t = some (Text.splitWhile p t).2 := by
  rw [rest?_star (yields_of_isSome fun _ => rfl), dropWhile_contains hs]

theorem rest?_plus_some (hs : ∀ c, s.contains c = p c) (c : Char) (t : Text) :
    (plus (set s) false).rest? some (c :: t)
      = if p c = true then some (Text.splitWhile p t).2 else none := by
  rw [rest?_plus_cons, hs, rest?_star_some hs]

end

/-- From any place the lazy loop goes on to the first star with a slash after it. -/
theorem rest?_closing (t : Text) : (t.ClosesComment →
      (few .any).rest? ((pair '*' '/').rest? some) t = some (Text.splitThroughStarSlash t).2) ∧
    (¬ t.ClosesComment → (few .any).rest? ((pair '*' '/').rest? some) t = none) := by
  fun_induction Text.splitThroughStarSlash t with
  | case1 =>
    rw [rest?_few_nil]
    refine ⟨?_, fun _ => rfl⟩
    rintro ⟨front, back, h⟩
    simp at h
  | case2 c =>
    rw [rest?_few_cons, rest?_few_nil]
    refine ⟨?_, fun _ => by simp⟩
    rintro ⟨front, back, h⟩
    have hlen := congrArg List.length h
    simp at hlen
    omega
  | case3 c d t hclose =>
    rw [rest?_few_cons, rest?_pair_cons, if_pos hclose, Text.closesComment_cons]
    exact ⟨fun _ => rfl, fun h => absurd (.inl hclose) h⟩
  | case4 c d t hclose body rest heq ih =>
    rw [rest?_few_cons, rest?_pair_cons, if_neg hclose, Text.closesComment_cons,
      or_iff_right hclose, CharSet.contains_any, if_pos rfl, Option.none_or]
    rwa [heq] at ih

end Pattern.Matcher

namespace Rule

open Pattern (Matcher)

/-- What the pattern rule does with a text: it declines, as its pattern does not match there, or
cuts off the token that its pattern matches and adds to the score. -/
def Cuts (r : Rule ε) (score : Int64) (t : Text) : Option (Token × Text) → Prop
  | none =>
    (∃ p action, r.compile = .ok (.pattern p action) ∧ p.search t = none) ∧
      ∀ names, r.Does names t none
  | some (token, rest) =>
    (∃ p action captures, r.compile = .ok (.pattern p action) ∧
      p.search t = some captures ∧ captures.span = ⟨0, token.text.byteSize⟩) ∧
      ∀ names, r.Does names t (some { tokens := [token], rest, score })

/-- Whether the pattern matches what the plain matcher matches at the start of a text. -/
def standsFor (m : Matcher) (p : Pattern) (bodies : List Matcher) : Bool :=
  decide (p.body? = some m) && decide (bodies = [m]) && m.plain

variable {source : String} {m : Matcher} {action : Action ε} {kind : TokenType} {score : Int64}
  {t u rest : Text}

theorem compile_of_splits {p : Pattern} {bodies : List Matcher} (h : Splits source p bodies) :
    (pattern source action).compile = .ok (.pattern p action) := by
  rw [Rule.compile, h.compile]
  rfl

/-- A rule for a plain matcher declines where the matcher fails. -/
theorem cuts_of_rest?_eq_none (h : splits source (standsFor m) = true)
    (hrest : m.rest? some t = none) : (pattern source action).Cuts score t none := by
  obtain ⟨p, bodies, h, hstands⟩ := exists_of_splits h
  simp only [standsFor, Bool.and_eq_true, decide_eq_true_eq] at hstands
  obtain ⟨⟨hbody, rfl⟩, hplain⟩ := hstands
  have hsearch := Pattern.search_of_rest?_eq_none hbody hplain hrest
  exact ⟨⟨p, action, compile_of_splits h, hsearch⟩, fun names => h.does_none hsearch⟩

/-- A rule for a plain matcher cuts off what the matcher reads. -/
theorem cuts_of_rest? (h : splits source (standsFor m) = true)
    (hmarks : ∀ names, action.Marks names [kind] score .stay)
    (hrest : m.rest? some (u ++ rest) = some rest) :
    (pattern source action).Cuts score (u ++ rest) (some (⟨some kind, u⟩, rest)) := by
  obtain ⟨p, bodies, h, hstands⟩ := exists_of_splits h
  simp only [standsFor, Bool.and_eq_true, decide_eq_true_eq] at hstands
  obtain ⟨⟨hbody, rfl⟩, hplain⟩ := hstands
  obtain ⟨parts, hparts, hmatches, hsearch⟩ :=
    Pattern.search_of_rest? h.parts hbody hplain hrest
  obtain ⟨w, parts, hw, hnil, rfl⟩ := List.forall₂_cons_left_iff.1 hmatches
  cases hnil
  obtain rfl : u = w := by simpa using hparts
  refine ⟨⟨p, action, _, compile_of_splits h, hsearch, by simp [Pattern.Captures.ofParts]⟩, ?_⟩
  intro names
  have hne : u ≠ [] := by simpa using h.ne_nil hmatches
  have htokens : tokensOf [kind] [u] = [⟨some kind, u⟩] := by
    simp [tokensOf, typed, hne]
  have hfound : p.search ([u].flatten ++ rest) = some (.ofParts p.groups [u]) := by
    simpa using hsearch
  have hdoes := h.does_some (hmarks names) rfl hmatches hfound
  rw [htokens] at hdoes
  simpa using hdoes

/-- Where the condition holds, the rule takes the token that the scanner takes, which is of the
given type. Elsewhere it declines. -/
structure AgreesWhen (cond : Prop) (r : Rule ε) (scanner : Scanner) (kind : TokenType)
    (score : Int64) (t : Text) : Prop where
  takes : cond → ∃ u rest, scanner.pop t = .ok (some ⟨some kind, u⟩, rest) ∧
    r.Cuts score t (some (⟨some kind, u⟩, rest))
  declines : ¬ cond → r.Cuts score t none

theorem agreesWhen {cond : Prop} {scanner : Scanner} (h : splits source (standsFor m) = true)
    (hmarks : ∀ names, action.Marks names [kind] score .stay)
    (hscan : cond → ∃ u rest, scanner.run t = some (⟨some kind, u⟩, rest) ∧
      m.rest? some t = some rest)
    (hnone : ¬ cond → m.rest? some t = none) :
    AgreesWhen cond (pattern source action) scanner kind score t := by
  constructor
  · intro hcond
    obtain ⟨u, rest, hrun, hrest⟩ := hscan hcond
    obtain rfl : u ++ rest = t := Scanner.append_of_run hrun
    exact ⟨u, rest, Scanner.pop_of_run hrun, cuts_of_rest? h hmarks hrest⟩
  · intro hcond
    exact cuts_of_rest?_eq_none h (hnone hcond)

theorem contains_lineBreaks (c : Char) :
    (CharSet.ofChars ['\n', '\r']).contains c = Text.isLineBreak c := by
  simp [Text.isLineBreak]

theorem newline_agrees (t : Text) :
    (newline : Rule ε).AgreesWhen (∃ c, t.head? = some c ∧ (c = '\n' ∨ c = '\r')) .newlines
      .textNewLine 0 t := by
  refine agreesWhen (m := .plus (.set (.ofChars ['\n', '\r'])) false) (by decide +kernel)
    (fun names => Action.marks_emit) ?_ ?_
  · rintro ⟨c, hhead, hc⟩
    obtain ⟨t, rfl⟩ := List.head?_eq_some_iff.1 hhead
    refine ⟨_, _, rfl, ?_⟩
    rw [Matcher.rest?_plus_some contains_lineBreaks, if_pos (by simpa [Text.isLineBreak] using hc)]
    rfl
  · intro hcond
    cases t with
    | nil => rfl
    | cons c t =>
      have hc : ¬ Text.isLineBreak c = true := by simpa [Text.isLineBreak] using hcond
      rw [Matcher.rest?_plus_some contains_lineBreaks, if_neg hc]

theorem asciiIdentifier_agrees (t : Text) :
    (asciiIdentifier : Rule ε).AgreesWhen (∃ c, t.head? = some c ∧ (c = '_' ∨ c.isAlpha = true))
      .identifier .codeIdentifier 0 t := by
  refine agreesWhen
    (m := .cat (.set CharSet.letters) (.star (.set CharSet.wordCharacters) false))
    (by decide +kernel) (fun names => Action.marks_emit) ?_ ?_
  · rintro ⟨c, hhead, hc⟩
    obtain ⟨t, rfl⟩ := List.head?_eq_some_iff.1 hhead
    have hstart : Text.isIdentifierStart c = true := by simpa [Text.isIdentifierStart] using hc
    refine ⟨_, _, rfl, ?_⟩
    rw [Matcher.rest?_cat, Matcher.rest?_set_cons, CharSet.contains_letters, if_pos hstart,
      Matcher.rest?_star_some fun _ => CharSet.contains_wordCharacters]
    rfl
  · intro hcond
    cases t with
    | nil => rfl
    | cons c t =>
      have hstart : ¬ Text.isIdentifierStart c = true := by
        simpa [Text.isIdentifierStart] using hcond
      rw [Matcher.rest?_cat, Matcher.rest?_set_cons, CharSet.contains_letters, if_neg hstart]

theorem contains_untilLine (c : Char) :
    (CharSet.ofChars ['\n']).compl.contains c = decide (c ≠ '\n') := by
  simp

theorem slashSlashComment_agrees (t : Text) :
    (slashSlashComment : Rule ε).AgreesWhen (∃ rest, t = '/' :: '/' :: rest) .twoCharComment
      .codeComment 1 t := by
  refine agreesWhen
    (m := .cat (.pair '/' '/') (.star (.set (CharSet.ofChars ['\n']).compl) false))
    (by decide +kernel) (fun names => Action.marks_emit.andThen_score 1) ?_ ?_
  · rintro ⟨t, rfl⟩
    refine ⟨_, _, rfl, ?_⟩
    rw [Matcher.rest?_cat, Matcher.rest?_pair_cons, if_pos ⟨rfl, rfl⟩,
      Matcher.rest?_star_some contains_untilLine, Text.lineComment,
      Text.splitBehindOpener_two (by decide) (by decide)]
  · intro hcond
    exact Matcher.rest?_pair_of_ne hcond

theorem slashStarComment_agrees (t : Text) :
    (slashStarComment : Rule ε).AgreesWhen
      (∃ front back, t = '/' :: '*' :: (front ++ '*' :: '/' :: back)) .slashStar .codeComment 1
      t := by
  refine agreesWhen
    (m := .cat (.pair '/' '*') (.cat (.few .any) (.pair '*' '/')))
    (by decide +kernel) (fun names => Action.marks_emit.andThen_score 1) ?_ ?_
  · rintro ⟨front, back, rfl⟩
    refine ⟨_, _, rfl, ?_⟩
    rw [Matcher.rest?_cat, Matcher.rest?_pair_cons, if_pos ⟨rfl, rfl⟩, Matcher.rest?_cat,
      (Matcher.rest?_closing _).1 ⟨front, back, rfl⟩, Text.starComment,
      Text.splitBehindOpener_two (by decide) (by decide)]
  · intro hcond
    by_cases hopen : ∃ t', t = '/' :: '*' :: t'
    · obtain ⟨t, rfl⟩ := hopen
      have hopen : ¬ Text.ClosesComment t := by
        rintro ⟨front, back, rfl⟩
        exact hcond ⟨front, back, rfl⟩
      rw [Matcher.rest?_cat, Matcher.rest?_pair_cons, if_pos ⟨rfl, rfl⟩, Matcher.rest?_cat,
        (Matcher.rest?_closing t).2 hopen]
    · exact Matcher.rest?_pair_of_ne hopen

section

variable {l : Text.Literal}

/-- The number scanner takes the literal at the front of the text. -/
theorem pop_number_iff : Scanner.number.pop t = .ok (some ⟨some kind, u⟩, rest) ↔
    t.number? = some ⟨kind, u, rest⟩ := by
  have hrun : Scanner.number.run t = t.number?.bind fun l =>
      Scanner.token l.kind (l.text, l.rest) := rfl
  constructor
  · intro hpop
    rcases Scanner.scan_is_safe .number t with ⟨token, behind, hpop', htoken, -⟩ | ⟨-, hpop', -⟩
    · cases hpop.symm.trans hpop'
      rw [hrun] at htoken
      obtain ⟨l, hl, hparts⟩ := Option.bind_eq_some_iff.1 htoken
      cases hparts
      exact hl
    · cases hpop.symm.trans hpop'
  · intro hnumber
    apply Scanner.pop_of_run
    rw [hrun, hnumber]
    rfl

/-- A text that begins with a digit is a number without a sign. -/
theorem number?_of_isDigit {c : Char} (hc : c.isDigit = true) (t : Text) :
    Text.number? (c :: t) = Text.unsignedNumber? (c :: t) := by
  have hsign : c ∉ "+-".toList := by
    intro hmem
    have hdigit := (isDigit_iff c).1 hc
    exact Text.Literal.sign_notMem_digits c hmem hdigit
  rw [Text.number?, Text.Literal.splitSign_of_notMem hsign]
  cases h : Text.unsignedNumber? (c :: t) <;> simp [h, Text.Literal.cons]

/-- The text behind a literal of the kind. -/
def behind? (kind : TokenType) (literal : Option Text.Literal) : Option Text :=
  literal.bind fun l => if l.kind = kind then some l.rest else none

@[simp] theorem behind?_none : behind? kind none = none := rfl

@[simp] theorem behind?_some :
    behind? kind (some l) = if l.kind = kind then some l.rest else none := rfl

@[simp] theorem behind?_map_cons (front : Text) (literal : Option Text.Literal) :
    behind? kind (literal.map (·.cons front)) = behind? kind literal := by
  cases literal <;> rfl

theorem behind?_eq_none {literal : Option Text.Literal}
    (h : ∀ u rest, literal ≠ some ⟨kind, u, rest⟩) : behind? kind literal = none := by
  cases literal with
  | none => rfl
  | some l =>
    rw [behind?_some, if_neg]
    rintro rfl
    exact h l.text l.rest rfl

/-- A rule for a matcher that reads the literals of one kind agrees with the number scanner in front
of a digit. -/
theorem agreesWhen_number (h : splits source (standsFor m) = true)
    (hmarks : ∀ names, action.Marks names [kind] score .stay)
    (hdigit : ∀ c t, c.isDigit = true → m.rest? some (c :: t)
      = behind? kind (Text.unsignedNumber? (c :: t)))
    (hother : ∀ t, (∀ c, t.head? = some c → c.isDigit = false) → m.rest? some t = none) (t : Text) :
    AgreesWhen
      ((∃ c, t.head? = some c ∧ c.isDigit = true) ∧
        ∃ u rest, Scanner.number.pop t = .ok (some ⟨some kind, u⟩, rest))
      (pattern source action) .number kind score t := by
  refine agreesWhen h hmarks ?_ ?_
  · rintro ⟨⟨c, hhead, hc⟩, u, rest, hpop⟩
    obtain ⟨t, rfl⟩ := List.head?_eq_some_iff.1 hhead
    have hnumber := pop_number_iff.1 hpop
    refine ⟨u, rest, by simp only [Scanner.run, hnumber]; rfl, ?_⟩
    rw [hdigit c t hc, ← number?_of_isDigit hc, hnumber, behind?_some, if_pos rfl]
  · intro hcond
    by_cases hhead : ∃ c, t.head? = some c ∧ c.isDigit = true
    · have hnumber : ∀ u rest, t.number? ≠ some ⟨kind, u, rest⟩ :=
        fun u rest hnumber => hcond ⟨hhead, u, rest, pop_number_iff.2 hnumber⟩
      obtain ⟨c, hhead, hc⟩ := hhead
      obtain ⟨t, rfl⟩ := List.head?_eq_some_iff.1 hhead
      rw [hdigit c t hc, ← number?_of_isDigit hc]
      exact behind?_eq_none hnumber
    · refine hother t fun c hc => ?_
      exact Bool.eq_false_iff.2 fun hdigit => hhead ⟨c, hc, hdigit⟩

theorem behind?_afterInteger (hkind : kind ∉ [.codeNumberInteger, .codeNumberDecimal]) (t : Text) :
    behind? kind (some (Text.afterInteger t)) = none := by
  rw [behind?_some, if_neg]
  rintro rfl
  exact hkind (Text.afterInteger_kind t)

/-- Only behind a zero a digit begins a literal of another kind than integers and decimals. -/
theorem behind?_unsignedNumber? (hkind : kind ∉ [.codeNumberInteger, .codeNumberDecimal])
    {c : Char} (hc : c.isDigit = true) (t : Text) :
    behind? kind (Text.unsignedNumber? (c :: t))
      = if c = '0' then behind? kind (Text.afterZero? t) else none := by
  have hpoint : c ≠ '.' := by
    rintro rfl
    cases hc
  simp only [Text.unsignedNumber?, if_neg hpoint, hc, if_true]
  split
  · exact behind?_map_cons _ _
  · exact behind?_afterInteger hkind (Text.splitWhile Char.isDigit t).2

theorem rest?_afterZero_hexadecimal (t : Text) :
    (Matcher.cat (.set (.ofChars ['x', 'X'])) (.plus (.set .hexDigits) false)).rest? some t
      = behind? .codeNumberHexadecimal (Text.afterZero? t) := by
  cases t with
  | nil => rfl
  | cons c t =>
    rw [Matcher.rest?_cat, Matcher.rest?_set_cons]
    simp only [CharSet.contains_ofChars, List.mem_cons, List.not_mem_nil, or_false,
      decide_eq_true_eq, Text.afterZero?]
    split
    · next hx =>
      have hoctal : ¬ Text.isOctalDigit c = true := by rcases hx with rfl | rfl <;> decide
      rw [if_neg hoctal]
      cases t with
      | nil => rfl
      | cons d t =>
        rw [Matcher.rest?_plus_some fun _ => CharSet.contains_hexDigits]
        split
        · next hd => simp [Text.splitWhile, hd]
        · next hd => simp [Text.splitWhile, hd]
    · have hkind : TokenType.codeNumberOctal ≠ .codeNumberHexadecimal := by decide
      split
      · simp [hkind]
      split
      · rfl
      · rw [behind?_afterInteger (by decide)]

theorem rest?_afterZero_octal (t : Text) : (Matcher.plus (.set .octalDigits) false).rest? some t
    = behind? .codeNumberOctal (Text.afterZero? t) := by
  cases t with
  | nil => rfl
  | cons c t =>
    rw [Matcher.rest?_plus_some fun _ => CharSet.contains_octalDigits, Text.afterZero?]
    have hkind : TokenType.codeNumberHexadecimal ≠ .codeNumberOctal := by decide
    split
    · simp
    split
    · dsimp only
      split
      · rfl
      · simp [hkind]
    split
    · rfl
    · rw [behind?_afterInteger (by decide)]

/-- A matcher that begins with a zero agrees with the number scanner if it does behind the zero. -/
theorem agreesWhen_afterZero
    (h : splits source (standsFor (.cat (.set (.single '0')) m)) = true)
    (hmarks : ∀ names, action.Marks names [kind] score .stay)
    (hkind : kind ∉ [.codeNumberInteger, .codeNumberDecimal])
    (hzero : ∀ t, m.rest? some t = behind? kind (Text.afterZero? t)) (t : Text) :
    AgreesWhen
      ((∃ c, t.head? = some c ∧ c.isDigit = true) ∧
        ∃ u rest, Scanner.number.pop t = .ok (some ⟨some kind, u⟩, rest))
      (pattern source action) .number kind score t := by
  refine agreesWhen_number h hmarks ?_ ?_ t
  · intro c t hc
    rw [behind?_unsignedNumber? hkind hc, Matcher.rest?_cat, Matcher.rest?_set_cons, hzero,
      CharSet.contains_single]
    simp only [decide_eq_true_eq]
  · intro t ht
    cases t with
    | nil => rfl
    | cons c t =>
      have hc : c ≠ '0' := by
        rintro rfl
        cases ht '0' rfl
      rw [Matcher.rest?_cat, Matcher.rest?_set_cons, CharSet.contains_single, if_neg (by simpa)]

theorem hexadecimal_agrees (t : Text) :
    AgreesWhen
      ((∃ c, t.head? = some c ∧ c.isDigit = true) ∧
        ∃ u rest, Scanner.number.pop t = .ok (some ⟨some .codeNumberHexadecimal, u⟩, rest))
      (hexadecimal : Rule ε) .number .codeNumberHexadecimal 0 t :=
  agreesWhen_afterZero (by decide +kernel) (fun names => Action.marks_emit) (by decide)
    rest?_afterZero_hexadecimal t

theorem octal_agrees (t : Text) :
    AgreesWhen
      ((∃ c, t.head? = some c ∧ c.isDigit = true) ∧
        ∃ u rest, Scanner.number.pop t = .ok (some ⟨some .codeNumberOctal, u⟩, rest))
      (octal : Rule ε) .number .codeNumberOctal 0 t :=
  agreesWhen_afterZero (by decide +kernel) (fun names => Action.marks_emit) (by decide)
    rest?_afterZero_octal t

/-- The rules for line breaks, identifiers and comments, and those for hexadecimal and octal
numbers, match exactly the texts of their scanners and take the same token of the same type: the
first four in front of their openers, the numbers where a digit comes first and the number scanner
finds one of the kind. -/
theorem predefined_rules_agree_with_scanners (t : Text) :
    AgreesWhen (∃ c, t.head? = some c ∧ (c = '\n' ∨ c = '\r'))
      (newline : Rule ε) .newlines .textNewLine 0 t ∧
    AgreesWhen (∃ c, t.head? = some c ∧ (c = '_' ∨ c.isAlpha = true))
      (asciiIdentifier : Rule ε) .identifier .codeIdentifier 0 t ∧
    AgreesWhen (∃ rest, t = '/' :: '/' :: rest)
      (slashSlashComment : Rule ε) .twoCharComment .codeComment 1 t ∧
    AgreesWhen (∃ front back, t = '/' :: '*' :: (front ++ '*' :: '/' :: back))
      (slashStarComment : Rule ε) .slashStar .codeComment 1 t ∧
    AgreesWhen
      ((∃ c, t.head? = some c ∧ c.isDigit = true) ∧
        ∃ u rest, Scanner.number.pop t = .ok (some ⟨some .codeNumberHexadecimal, u⟩, rest))
      (hexadecimal : Rule ε) .number .codeNumberHexadecimal 0 t ∧
    AgreesWhen
      ((∃ c, t.head? = some c ∧ c.isDigit = true) ∧
        ∃ u rest, Scanner.number.pop t = .ok (some ⟨some .codeNumberOctal, u⟩, rest))
      (octal : Rule ε) .number .codeNumberOctal 0 t :=
  ⟨newline_agrees t, asciiIdentifier_agrees t, slashSlashComment_agrees t,
    slashStarComment_agrees t, hexadecimal_agrees t, octal_agrees t⟩

end

end Rule

end ModalLexer
