import ModalLexer.Language.Ini
import ModalLexer.Proofs.CharSet
import ModalLexer.Proofs.Pattern.Agreement
import ModalLexer.Proofs.Rule.Choice
import ModalLexer.Proofs.Scanner.Kinds
import ModalLexer.Proofs.Scanner.Progress

/-! # The steps on settings files

In both modes some rule takes a step, whatever the text is. No rule looks behind a line feed that it
does not take, so a step is the same if the text ends with a line feed and more lines follow. A step
that takes a line feed and stays in its mode is one of the first mode.
-/

namespace ModalLexer.Language.Ini

variable {ε : Type}

def modeNames : List String := ["root", "value"]

/-- Behind the text `t` the text `b` begins a new line, or there is none. -/
def Joins (t b : Text) : Prop :=
  b = [] ∨ t.getLast? = some '\n' ∧ b.head? ≠ some '\n' ∧ b.head? ≠ some '\r'

/-- The rule does the same with `t` and with `t` followed by `b`. -/
def DoesBoth (t b : Text) (r : Rule ε) (st? : Option Step) : Prop :=
  r.Does modeNames t st? ∧ r.Does modeNames (t ++ b) (st?.map (·.extend b))

/-- The ways in which a step can change the mode. -/
inductive StepIn (mode : Nat) (st : Step) : Prop
  | stays (hline : mode = 0 ∨ '\n' ∉ Token.join st.tokens) (hmove : st.move = .stay)
  | enters (hmode : mode = 0) (hline : '\n' ∉ Token.join st.tokens) (hmove : st.move = .enter 1)
  | leaves (hmode : mode = 1) (hmove : st.move = .leave)

/-- The rule declines both texts, or takes the same sound step on them. -/
abbrev Decides (mode : Nat) (t b : Text) (r : Rule ε) : Prop :=
  r.Decides (DoesBoth t b) fun st => st.Sound t ∧ StepIn mode st

variable {mode : Nat} {t b : Text} {c : Char} {kind : TokenType} {kinds : List TokenType}
  {score : Int64} {move : Move} {source : String} {action : Action ε} {p : Pattern}
  {bodies : List Pattern.Matcher}

/-- A pattern that finds the same in both texts. -/
theorem decides_pattern (h : Rule.Splits source p bodies)
    (hmarks : action.Marks modeNames kinds score move) (hlen : kinds.length = bodies.length)
    (hkinds : ∀ kind ∈ kinds, ¬ kind.IsA .stop) (hsearch : p.search (t ++ b) = p.search t)
    (hstep : ∀ parts rest, List.Forall₂ Pattern.Matcher.Matches bodies parts →
      StepIn mode { tokens := tokensOf kinds parts, rest, score, move }) :
    Decides mode t b (.pattern source action) := by
  rcases h.does hmarks hlen t with ⟨hnone, hdoes⟩ | ⟨parts, rest, rfl, hparts, hsome, hdoes⟩
  · exact .inl ⟨hdoes, h.does_none (hsearch.trans hnone)⟩
  · refine .inr ⟨_, ⟨hdoes, ?_⟩, Step.sound_tokensOf hkinds (hlen.trans hparts.length_eq)
      (h.ne_nil hparts), hstep parts rest hparts⟩
    have hfound := hsearch.trans hsome
    rw [List.append_assoc] at hfound ⊢
    exact h.does_some hmarks hlen hparts hfound

def staysInLine (m : Pattern.Matcher) : Bool := m.sets.all (!·.contains '\n')

/-- Whether a match consists of the given number of parts, all of them within one line. -/
def isInLine (count : Nat) (p : Pattern) (bodies : List Pattern.Matcher) : Bool :=
  bodies.length = count && p.body?.any staysInLine && bodies.all staysInLine

theorem search_append_of_staysInLine {body : Pattern.Matcher} (hbody : p.body? = some body)
    (hline : staysInLine body = true) (hjoin : Joins t b) : p.search (t ++ b) = p.search t := by
  rcases hjoin with rfl | ⟨hlast, -⟩
  · rw [List.append_nil]
  · obtain ⟨u, rfl⟩ := List.getLast?_eq_some_iff.1 hlast
    have hstops : ∀ rest, body.StopsBefore ('\n' :: rest) := by
      intro rest c hc s hs
      cases hc
      simpa using List.all_eq_true.1 hline s hs
    rw [List.append_assoc]
    exact Pattern.search_agree hbody (hstops b) (hstops []) (body.confuses_of_head? rfl) u

theorem notMem_of_staysInLine {parts : List Text}
    (hparts : List.Forall₂ Pattern.Matcher.Matches bodies parts)
    (hline : bodies.all staysInLine = true) : '\n' ∉ parts.flatten := by
  induction hparts with
  | nil => simp
  | cons hbody _ ih =>
    obtain ⟨hfirst, hmore⟩ := Bool.and_eq_true_iff.1 hline
    rw [List.flatten_cons, List.mem_append, not_or]
    refine ⟨fun hmem => ?_, ih hmore⟩
    obtain ⟨s, hs, hcontains⟩ := hbody.exists_set hmem
    have hnot := List.all_eq_true.1 hfirst s hs
    rw [hcontains] at hnot
    cases hnot

theorem decides_line (kinds : List TokenType)
    (h : Rule.splits source (isInLine kinds.length) = true)
    (hmarks : action.Marks modeNames kinds score move) (hkinds : ∀ kind ∈ kinds, ¬ kind.IsA .stop)
    (hmove : move = .stay ∨ mode = 0 ∧ move = .enter 1) (hjoin : Joins t b) :
    Decides mode t b (.pattern source action) := by
  obtain ⟨p, bodies, h, hcheck⟩ := Rule.exists_of_splits h
  simp only [isInLine, Bool.and_eq_true, decide_eq_true_eq, Option.any_eq_true] at hcheck
  obtain ⟨⟨hlen, body, hbody, hline⟩, hlines⟩ := hcheck
  refine decides_pattern h hmarks hlen.symm hkinds (search_append_of_staysInLine hbody hline hjoin)
    ?_
  intro parts rest hparts
  have hnot : '\n' ∉ Token.join (tokensOf kinds parts) := by
    rw [join_tokensOf (hlen.symm.trans hparts.length_eq)]
    exact notMem_of_staysInLine hparts hlines
  rcases hmove with rfl | ⟨rfl, rfl⟩
  · exact .stays (.inr hnot) rfl
  · exact .enters rfl hnot rfl

def lineBreaks : CharSet := .ofChars ['\n', '\r']

def isBreak (p : Pattern) (bodies : List Pattern.Matcher) : Bool :=
  bodies.length = 1 &&
    p.body?.any fun body => body.anchors.isEmpty && body.sets.all (· = lineBreaks)

theorem splits_lineBreaks : Rule.splits "[\\n\\r]+" isBreak = true := by decide +kernel

/-- A rule for line breaks, which either belongs to the first mode and stays there or leaves the
second one. -/
theorem decides_break (hmarks : action.Marks modeNames [.textNewLine] 0 move)
    (hmove : mode = 0 ∧ move = .stay ∨ mode = 1 ∧ move = .leave) (hjoin : Joins t b) :
    Decides mode t b (.pattern "[\\n\\r]+" action) := by
  obtain ⟨p, bodies, h, hcheck⟩ := Rule.exists_of_splits splits_lineBreaks
  simp only [isBreak, Bool.and_eq_true, decide_eq_true_eq, Option.any_eq_true] at hcheck
  obtain ⟨hlen, body, hbody, hanchors, hsets⟩ := hcheck
  have hsearch : p.search (t ++ b) = p.search t := by
    rcases hjoin with rfl | ⟨-, hfeed, hreturn⟩
    · rw [List.append_nil]
    · have hstops : body.StopsBefore b := by
        intro c hc s hs
        rw [of_decide_eq_true (List.all_eq_true.1 hsets s hs), lineBreaks,
          CharSet.contains_ofChars]
        rw [hc, Ne, Option.some.injEq] at hfeed hreturn
        simp [hfeed, hreturn]
      have hnone : body.StopsBefore [] := by
        intro c hc
        cases hc
      have hconfuses : body.Confuses b [] := by
        intro a ha
        rw [List.isEmpty_iff.1 hanchors] at ha
        cases ha
      simpa using Pattern.search_agree hbody hstops hnone hconfuses t
  refine decides_pattern h hmarks hlen.symm (by decide) hsearch ?_
  intro parts rest hparts
  rcases hmove with ⟨rfl, rfl⟩ | ⟨rfl, rfl⟩
  · exact .stays (.inl rfl) rfl
  · exact .leaves rfl rfl

/-- Whether a match is a single part, and a character of the set is enough for one. -/
def isLed (set : CharSet) (p : Pattern) (bodies : List Pattern.Matcher) : Bool :=
  bodies.length = 1 && p.leads.contains set

theorem not_declines (set : CharSet) (kind : TokenType)
    (h : Rule.splits source (isLed set) = true)
    (hmarks : action.Marks modeNames [kind] score move) (hc : set.contains c = true) :
    ¬ DoesBoth (c :: t) b (.pattern source action) none := by
  obtain ⟨p, bodies, h, hcheck⟩ := Rule.exists_of_splits h
  simp only [isLed, Bool.and_eq_true, decide_eq_true_eq, List.contains_iff_mem] at hcheck
  exact fun hnone => h.not_none hmarks hcheck.1.symm hcheck.2 hc t hnone.1

/-- A token of the scanner is within one line, and what follows a line feed behind it does not
matter. -/
def InLine (cond : Char → Bool) (scanner : Scanner) : Prop :=
  ∀ c t token rest, cond c = true → scanner.run (c :: t) = some (token, rest) →
    '\n' ∉ token.text ∧ ∀ b, '\n' ∈ t → scanner.run (c :: (t ++ b)) = some (token, rest ++ b)

theorem splitWhile_inLine {cond : Char → Bool} (hcond : cond '\n' = false) (t : Text) :
    '\n' ∉ (Text.splitWhile cond t).1 ∧ ∀ b, '\n' ∈ t →
      Text.splitWhile cond (t ++ b)
        = ((Text.splitWhile cond t).1, (Text.splitWhile cond t).2 ++ b) := by
  induction t with
  | nil => simp [Text.splitWhile]
  | cons c t ih =>
    by_cases hc : cond c = true
    · have hne : c ≠ '\n' := by rintro rfl; rw [hcond] at hc; cases hc
      refine ⟨by simp [Text.splitWhile, hc, hne.symm, ih.1], ?_⟩
      intro b hb
      have hmem : '\n' ∈ t := (List.mem_cons.1 hb).resolve_left hne.symm
      simp [Text.splitWhile, hc, ih.2 b hmem]
    · simp [Text.splitWhile, hc]

theorem splitQuoted_inLine {quote : Char} (hquote : quote ≠ '\n') (before : Char) (t : Text) :
    '\n' ∉ (Text.splitQuoted quote before t).1 ∧ ∀ b, '\n' ∈ t →
      Text.splitQuoted quote before (t ++ b)
        = ((Text.splitQuoted quote before t).1, (Text.splitQuoted quote before t).2 ++ b) := by
  induction t generalizing before with
  | nil => simp [Text.splitQuoted]
  | cons c t ih =>
    by_cases hc : c = quote ∧ before ≠ '\\'
    · simp [Text.splitQuoted, hc, hquote.symm]
    · by_cases hfeed : c = '\n'
      · simp [Text.splitQuoted, hfeed, hquote.symm]
      · refine ⟨by simp [Text.splitQuoted, hc, hfeed, Ne.symm hfeed, (ih c).1], ?_⟩
        intro b hb
        have hmem : '\n' ∈ t := (List.mem_cons.1 hb).resolve_left (Ne.symm hfeed)
        simp [Text.splitQuoted, hc, hfeed, (ih c).2 b hmem]

theorem whitespace_inLine : InLine Text.isBlank .whitespace := by
  intro c t token rest hc hrun
  cases hrun
  have hne : c ≠ '\n' := by rintro rfl; cases hc
  obtain ⟨hline, hmore⟩ := splitWhile_inLine (show Text.isBlank '\n' = false from rfl) t
  refine ⟨by simp [Text.run, Text.splitBehindFirst, hne.symm, hline], ?_⟩
  intro b hb
  simp [Scanner.run, Scanner.token, Text.run, Text.splitBehindFirst, hmore b hb]

theorem doubleQuoted_inLine : InLine (· = '"') .doubleQuoted := by
  intro c t token rest hc hrun
  cases hrun
  have hne : c ≠ '\n' := by rintro rfl; cases hc
  obtain ⟨hline, hmore⟩ := splitQuoted_inLine (show '"' ≠ '\n' by decide) c t
  refine ⟨by simp [Text.quotedString, Text.splitBehindFirst, hne.symm, hline], ?_⟩
  intro b hb
  simp [Scanner.run, Scanner.token, Text.quotedString, Text.splitBehindFirst, hmore b hb]

theorem decides_scanIf {cond : Char → Bool} {scanner : Scanner} (hscanner : scanner ≠ .number)
    (hline : InLine cond scanner) (hcond : cond '\n' = false) (hjoin : Joins (c :: t) b) :
    Decides mode (c :: t) b (.procedure (.scanIf cond scanner) : Rule ε) := by
  cases hc : cond c with
  | false =>
    have hnone : ∀ u, (c :: u).head?.any cond = false := fun _ => by simpa using hc
    exact .inl ⟨Rule.does_scanIf_none (hnone t), Rule.does_scanIf_none (hnone (t ++ b))⟩
  | true =>
    have hsome : ∀ u, (c :: u).head?.any cond = true := fun _ => by simpa using hc
    obtain ⟨token, rest, hrun, htoken⟩ := Scanner.exists_run hscanner (List.cons_ne_nil c t)
    obtain ⟨kind, hmem, hkind⟩ := Scanner.kind_of_run hrun
    obtain ⟨hnot, hmore⟩ := hline c t token rest hc hrun
    have hrun' : scanner.run (c :: (t ++ b)) = some (token, rest ++ b) := by
      rcases hjoin with rfl | ⟨hlast, -⟩
      · simpa using hrun
      · refine hmore b ((List.mem_cons.1 (List.mem_of_getLast? hlast)).resolve_left ?_)
        rintro rfl
        rw [hcond] at hc
        cases hc
    refine .inr ⟨_, ⟨Rule.does_scanIf_some (hsome t) hrun htoken,
      Rule.does_scanIf_some (hsome (t ++ b)) hrun' htoken⟩, ?_,
      .stays (.inr (by simpa using hnot)) rfl⟩
    obtain ⟨kind?, u⟩ := token
    cases hkind
    rw [← Scanner.append_of_run hrun]
    exact Step.sound_one (scanner.not_stop_of_mem_kinds kind hmem) htoken

theorem decides_root (hjoin : Joins (c :: t) b) :
    ∀ r ∈ (root : List (Rule ε)), Decides 0 (c :: t) b r := by
  have hnested : (["root", "value"] : List String).idxOf? "value" = some 1 := by decide
  simp only [root, List.forall_mem_cons, List.not_mem_nil, false_implies, implies_true, and_true]
  refine ⟨?_, ?_, ?_, ?_, ?_, ?_⟩
  · exact decides_scanIf (by decide) whitespace_inLine (by decide) hjoin
  · exact decides_break Action.marks_emit (.inl ⟨rfl, rfl⟩) hjoin
  · exact decides_line [.codeComment] (by decide +kernel)
      (Action.marks_emit.andThen_score 1) (by decide) (.inl rfl) hjoin
  · exact decides_line [.codeDelimiter, .codeIdentifierNamespace, .codeDelimiter]
      (by decide +kernel) (Action.marks_emit.andThen_score 2) (by decide) (.inl rfl) hjoin
  · exact decides_line
      [.codeIdentifierVariable, .textWhiteSpace, .codeOperatorAssignment]
      (by decide +kernel) ((Action.marks_emit.andThen_score 1).andThen_enter hnested) (by decide)
      (.inr ⟨rfl, rfl⟩) hjoin
  · exact decides_line [.textInvalid] (by decide +kernel)
      (Action.marks_emit.andThen_score (-1)) (by decide) (.inl rfl) hjoin

theorem decides_value (hjoin : Joins (c :: t) b) :
    ∀ r ∈ (value : List (Rule ε)), Decides 1 (c :: t) b r := by
  have hone : ∀ (source : String) (kind : TokenType), Rule.splits source (isInLine 1) = true →
      ¬ kind.IsA .stop → Decides 1 (c :: t) b (.pattern source (.emit [kind]) : Rule ε) :=
    fun source kind h hkind => decides_line [kind] h Action.marks_emit
      (by simpa using hkind) (.inl rfl) hjoin
  simp only [value, List.forall_mem_cons, List.not_mem_nil, false_implies, implies_true, and_true]
  refine ⟨?_, ?_, ?_, ?_, ?_, ?_, ?_, ?_⟩
  · exact hone _ _ (by decide +kernel) (by decide)
  · exact decides_break Action.marks_emit.andThen_exit (.inr ⟨rfl, rfl⟩) hjoin
  · exact hone _ _ (by decide +kernel) (by decide)
  · exact decides_scanIf (by decide) doubleQuoted_inLine (by decide) hjoin
  · exact hone _ _ (by decide +kernel) (by decide)
  · exact hone _ _ (by decide +kernel) (by decide)
  · exact hone _ _ (by decide +kernel) (by decide)
  · exact hone _ _ (by decide +kernel) (by decide)

def rulesOf (mode : Nat) : List (Rule ε) := if mode = 0 then root else value

theorem decides_rules (hmode : mode = 0 ∨ mode = 1) (hjoin : Joins (c :: t) b) :
    ∀ r ∈ (rulesOf mode : List (Rule ε)), Decides mode (c :: t) b r := by
  rcases hmode with rfl | rfl
  · exact decides_root hjoin
  · exact decides_value hjoin

theorem exists_not_declines (hmode : mode = 0 ∨ mode = 1) :
    ∃ r ∈ (rulesOf mode : List (Rule ε)), ¬ DoesBoth (c :: t) b r none := by
  have hbreaks : Rule.splits "[\\n\\r]+" (isLed lineBreaks) = true := by decide +kernel
  by_cases hbreak : lineBreaks.contains c = true
  · rcases hmode with rfl | rfl
    · exact ⟨_, .tail _ (.head _), not_declines _ _ hbreaks Action.marks_emit hbreak⟩
    · exact ⟨_, .tail _ (.head _), not_declines _ _ hbreaks Action.marks_emit.andThen_exit hbreak⟩
  · have hline : c ∉ ['\n', '\r'] := by simpa [lineBreaks] using hbreak
    rcases hmode with rfl | rfl
    · exact ⟨_, List.getLast_mem (l := root) (by simp [root]), not_declines
        (CharSet.ofChars ['\r', '\n']).compl .textInvalid (by decide +kernel)
        (Action.marks_emit.andThen_score (-1)) (by simpa [and_comm] using hline)⟩
    · by_cases hcomment : (CharSet.ofChars [';', '#']).contains c = true
      · exact ⟨_, .tail _ (.tail _ (.head _)), not_declines _ .codeComment
          (by decide +kernel) Action.marks_emit hcomment⟩
      · have hother : c ∉ [';', '#'] := by simpa using hcomment
        refine ⟨_, List.getLast_mem (l := value) (by simp [value]), not_declines
          (CharSet.ofChars ['\r', '\n', ';', '#']).compl .codeString
          (by decide +kernel) Action.marks_emit ?_⟩
        simp only [List.mem_cons, List.not_mem_nil, or_false, not_or] at hline hother
        simp [hline, hother]

/-- In both modes some rule takes a step, and it is of one of the three ways. -/
theorem exists_step (hmode : mode = 0 ∨ mode = 1) (hne : t ≠ []) (hjoin : Joins t b) :
    ∃ st, Selects (DoesBoth t b) (rulesOf mode : List (Rule ε)) st ∧ st.Sound t ∧
      StepIn mode st := by
  obtain ⟨c, t, rfl⟩ := List.exists_cons_of_ne_nil hne
  rcases selects_of_decides (decides_rules (ε := ε) hmode hjoin) with hall | h
  · obtain ⟨r, hr, hnot⟩ := exists_not_declines (ε := ε) (c := c) (t := t) (b := b) hmode
    exact (hnot (hall r hr)).elim
  · exact h

end ModalLexer.Language.Ini
