import ModalLexer.Proofs.Engine.Lexing
import ModalLexer.Proofs.Engine.Transfer
import ModalLexer.Proofs.Language.C.Steps

/-! # Nesting in the C family

The modes and the score of a scan can be computed from its tokens: the brackets among them that are
still open are the modes that the scan is in, and the score counts comments, keywords, invalid
characters and closers without a match.
-/

namespace ModalLexer.Language.C

variable {ε : Type}

/-- The brackets that are open, the latest first, and the number of closers without a match. -/
structure Balance where
  opened : List Bracket := []
  unmatched : Nat := 0
deriving DecidableEq, Repr

namespace Balance

/-- The brackets after one more token. An opener opens a bracket. A closer closes the latest one if
it belongs to it, and is unmatched otherwise. -/
def read (b : Balance) (token : Token) : Balance :=
  let brackets := [Bracket.brace, .paren, .square]
  if token.kind = some .codeDelimiter then
    match brackets.find? (token.text = [·.opener]), brackets.find? (token.text = [·.closer]) with
    | some bracket, _ => { b with opened := bracket :: b.opened }
    | none, some bracket =>
      if b.opened.head? = some bracket then { b with opened := b.opened.tail }
      else { b with unmatched := b.unmatched + 1 }
    | none, none => b
  else b

variable {b : Balance} {token : Token}

theorem read_of_ne (h : token.kind ≠ some .codeDelimiter) : b.read token = b := by
  simp only [read, if_neg h]

theorem read_opener (bracket : Bracket) :
    b.read ⟨some .codeDelimiter, [bracket.opener]⟩ = { b with opened := bracket :: b.opened } := by
  cases bracket <;> rfl

theorem read_closer (bracket : Bracket) :
    b.read ⟨some .codeDelimiter, [bracket.closer]⟩
      = if b.opened.head? = some bracket then { b with opened := b.opened.tail }
        else { b with unmatched := b.unmatched + 1 } := by
  cases bracket <;> rfl

end Balance

def balance (ts : List Token) : Balance := ts.foldl Balance.read {}

theorem balance_append (ts us : List Token) :
    balance (ts ++ us) = us.foldl Balance.read (balance ts) := List.foldl_append

theorem foldl_read_of_ne {b : Balance} {ts : List Token}
    (h : ∀ token ∈ ts, token.kind ≠ some .codeDelimiter) : ts.foldl Balance.read b = b := by
  induction ts with
  | nil => rfl
  | cons token ts ih =>
    rw [List.foldl_cons, Balance.read_of_ne (h token List.mem_cons_self)]
    exact ih fun t ht => h t (List.mem_cons_of_mem _ ht)

/-- The mode between the given brackets, if there are any. -/
def modeOf (inside : Option Bracket) : Mode ε :=
  ⟨inside.elim "root" Bracket.modeName, body (inside.map (·.nesting.closer))⟩

def allModes : List (Mode ε) := [none, some Bracket.brace, some .paren, some .square].map modeOf

theorem grammar_modes : (grammar : Grammar ε).modes? = some allModes := rfl

theorem allModes_names : (allModes : List (Mode ε)).map (·.name) = modeNames := rfl

theorem getElem?_allModes (inside : Option Bracket) :
    (allModes : List (Mode ε))[inside.elim 0 Bracket.mode]? = some (modeOf inside) := by
  cases inside with
  | none => rfl
  | some b => cases b <;> rfl

theorem exists_compile : ∃ compiled, (grammar : Grammar ε).compile = .ok compiled := by
  refine Grammar.exists_compile grammar_modes (List.cons_ne_nil _ _) ?_ fun mode hmode => ?_
  · rw [allModes_names]; decide
  · obtain ⟨inside, -, rfl⟩ := List.mem_map.1 hmode
    refine ⟨by simp [modeOf, body], ?_⟩
    intro r hr
    have hinside : ∀ b, inside = some b → 'a' ≠ b.closer := by
      rintro b -
      cases b <;> decide
    rcases decides_body hinside [] r hr with ⟨c, hc, -⟩ | ⟨_, ⟨c, hc, -⟩, -⟩ <;> exact ⟨c, hc⟩

/-- The modes are those of the given brackets, the latest first. -/
def Within (opened : List Bracket) (c : Situation) : Prop :=
  c.mode :: c.stack = opened.map Bracket.mode ++ [0]

theorem Within.mode_eq {opened : List Bracket} {c : Situation} (h : Within opened c) :
    c.mode = opened.head?.elim 0 Bracket.mode := by
  cases opened with
  | nil => exact (List.cons.inj h).1
  | cons b opened => exact (List.cons.inj h).1

theorem Within.getElem?_allModes {opened : List Bracket} {c : Situation} (h : Within opened c) :
    (allModes : List (Mode ε))[c.mode]? = some (modeOf opened.head?) := by
  rw [h.mode_eq]
  exact C.getElem?_allModes _

/-- A step leads to the modes of the brackets that are open behind its tokens. -/
theorem Within.step {b : Balance} {c : Situation} {st : Step} (h : Within b.opened c)
    (hst : StepIn b.opened.head? st) :
    ∃ c', c.perform st = some c' ∧ Within (st.tokens.foldl Balance.read b).opened c' ∧
      c'.score + .ofNat (st.tokens.foldl Balance.read b).unmatched
        = c.score + scoreOf st.tokens + .ofNat b.unmatched := by
  cases hst with
  | plain hplain hmove hkind =>
    refine ⟨_, by rw [Situation.perform, hmove]; rfl, ?_, ?_⟩
    · rw [foldl_read_of_ne hkind]
      exact h
    · rw [foldl_read_of_ne hkind, ← hplain]
  | opens bracket rest =>
    refine ⟨_, rfl, ?_, ?_⟩
    · simpa [Balance.read_opener, Within] using h
    · simp [Balance.read_opener]
  | closes bracket rest hinside =>
    obtain ⟨opened, hopened⟩ := List.head?_eq_some_iff.1 hinside
    rw [Within, hopened] at h
    obtain ⟨-, hstack⟩ := List.cons.inj h
    obtain ⟨mode, stack, hkept⟩ := List.exists_cons_of_ne_nil (l := c.stack) (by simp [hstack])
    refine ⟨_, by simp only [Situation.perform, Situation.moved, hkept]; rfl, ?_, ?_⟩
    · rw [Within, ← hkept, hstack]
      simp [Balance.read_closer, hopened]
    · simp [Balance.read_closer, hopened]
  | unmatched bracket rest hinside =>
    refine ⟨_, rfl, ?_, ?_⟩
    · simpa [Balance.read_closer, hinside, Within] using h
    · simp only [Balance.read_closer, hinside, List.foldl_cons, List.foldl_nil, if_false,
        Int64.ofNat_add, scoreOf_cons, scoreOf_nil, tokenScore_delimiter]
      grind

/-- The modes are those of the open brackets, and the score is that of the tokens, less the closers
without a match. -/
structure Nested (ts : List Token) (c : Situation) : Prop where
  modes : c.mode :: c.stack = (balance ts).opened.map Bracket.mode ++ [0]
  score : c.score = scoreOf ts - .ofNat (balance ts).unmatched

theorem Nested.within {ts : List Token} {c : Situation} (h : Nested ts c) :
    Within (balance ts).opened c := h.modes

theorem Nested.step {ts : List Token} {c : Situation} {st : Step} (h : Nested ts c)
    (hst : StepIn (balance ts).opened.head? st) :
    ∃ c', c.perform st = some c' ∧ Nested (ts ++ st.tokens) c' := by
  obtain ⟨c', hperform, hwithin, hscore⟩ := h.within.step hst
  have hbefore := h.score
  rw [← balance_append] at hwithin hscore
  refine ⟨c', hperform, hwithin, ?_⟩
  rw [scoreOf_append]
  grind

theorem keeps_nested : (grammar : Grammar ε).Keeps Nested := by
  intro ts c h hne
  obtain ⟨st, hsel, hsound, hst⟩ := exists_step (ε := ε) (balance ts).opened.head? hne
  obtain ⟨c', hperform, h'⟩ := h.step hst
  refine ⟨st, c', ⟨hsound, hperform, allModes, modeOf _, grammar_modes, ?_, hsel⟩, h'⟩
  exact h.within.getElem?_allModes

theorem nested_nil (text : Text) : Nested [] (.start text) := ⟨rfl, rfl⟩

/-- An engine whose scan has the situation of the invariant is in the modes of the open
brackets. -/
theorem Nested.modeNames_eq {ts : List Token} {c : Situation} (h : Nested ts c) :
    (c.mode :: c.stack).map (modeNames.getD · "")
      = (balance ts).opened.map Bracket.modeName ++ ["root"] := by
  have hname : ∀ b : Bracket, modeNames.getD b.mode "" = b.modeName := by
    rintro (_ | _ | _) <;> rfl
  rw [h.modes, List.map_append, List.map_map]
  congr 1
  exact List.map_congr_left fun b _ => hname b

theorem Nested.endOfText {ts : List Token} {c : Situation} (h : Nested ts c) :
    Nested (ts ++ [Engine.endOfText]) c := by
  have hbalance : balance (ts ++ [Engine.endOfText]) = balance ts := by
    rw [balance_append]
    exact foldl_read_of_ne (by simp [Engine.endOfText]; decide)
  have hscore : tokenScore Engine.endOfText = 0 := rfl
  exact ⟨hbalance ▸ h.modes, by simp [hbalance, h.score, hscore]⟩

/-- The number of tokens of a type whose text satisfies a condition. -/
def count (kind : TokenType) (p : Text → Bool) (ts : List Token) : Nat :=
  ts.countP fun token => token.kind = some kind && p token.text

theorem scoreOf_eq_count (ts : List Token) :
    scoreOf ts = .ofInt (count .codeComment (fun _ => true) ts
      + count .codeIdentifierKeyword (·.head? ≠ some '#') ts
      + 2 * count .codeIdentifierKeyword (·.head? = some '#') ts
      - count .textInvalid (fun _ => true) ts) := by
  induction ts with
  | nil => rfl
  | cons token ts ih =>
    have htoken : tokenScore token = .ofInt (if token.kind = some .codeComment then 1
        else if token.kind = some .codeIdentifierKeyword then
          if token.text.head? = some '#' then 2 else 1
        else if token.kind = some .textInvalid then -1
        else 0) := by
      simp only [tokenScore, apply_ite Int64.ofInt]
      rfl
    rw [scoreOf_cons, ih, htoken, ← Int64.ofInt_add]
    congr 1
    have hne : TokenType.codeIdentifierKeyword ≠ .codeComment ∧
        TokenType.textInvalid ≠ .codeComment ∧
        TokenType.textInvalid ≠ .codeIdentifierKeyword := by decide
    simp only [count, List.countP_cons]
    by_cases hcomment : token.kind = some .codeComment
    · simp [hcomment, hne.1.symm, hne.2.1.symm]
      omega
    · by_cases hkeyword : token.kind = some .codeIdentifierKeyword
      · by_cases hhash : token.text.head? = some '#'
        · simp [hkeyword, hhash, hne.1, hne.2.2.symm]
          omega
        · simp [hkeyword, hhash, hne.1, hne.2.2.symm]
          omega
      · by_cases hinvalid : token.kind = some .textInvalid
        · simp [hinvalid, hne.2.1, hne.2.2]
          omega
        · simp [hcomment, hkeyword, hinvalid]

/-- At every time at which no token is queued, the modes and the score are determined by the tokens
returned so far. -/
theorem modes_and_score_from_tokens (text : Text) :
    ∃ e, Engine.start (grammar : Grammar ε) text = .ok e ∧
      ∀ n, ∃ r, e.pulls n = .ok r ∧ (r.engine.state.queue.toList = [] →
        r.engine.state.depth = (balance r.tokens).opened.length ∧
        r.engine.state.modeName = (balance r.tokens).opened.head?.elim "root" Bracket.modeName ∧
        (r.engine.state.mode :: r.engine.state.stack).map (r.engine.state.modeNames.getD · "")
          = (balance r.tokens).opened.map Bracket.modeName ++ ["root"] ∧
        r.engine.state.score = .ofInt (count .codeComment (fun _ => true) r.tokens
          + count .codeIdentifierKeyword (·.head? ≠ some '#') r.tokens
          + 2 * count .codeIdentifierKeyword (·.head? = some '#') r.tokens
          - count .textInvalid (fun _ => true) r.tokens
          - (balance r.tokens).unmatched)) := by
  obtain ⟨compiled, hcompiled⟩ := exists_compile (ε := ε)
  obtain ⟨e, hstart, hpulls⟩ := Engine.exists_start_tracks keeps_nested plain_grammar hcompiled
    grammar_modes (nested_nil text)
  refine ⟨e, hstart, ?_⟩
  intro n
  obtain ⟨r, hr, htracks, hnames⟩ := hpulls n
  refine ⟨r, hr, ?_⟩
  intro hq
  have hnested : Nested r.tokens r.engine.state.situation := by
    obtain ⟨us, hus, h⟩ := htracks.of_queue_eq_nil hq
    rcases hus with hus | hus
    · exact hus ▸ h
    · exact hus ▸ h.endOfText
  have hmodes := hnested.modeNames_eq
  rw [← hnames.trans allModes_names] at hmodes
  refine ⟨?_, ?_, hmodes, ?_⟩
  · have hlen := congrArg List.length hnested.modes
    simpa [State.situation, State.depth] using hlen
  · have hhead := congrArg List.head? hmodes
    cases hopened : (balance r.tokens).opened with
    | nil => simpa [hopened, State.modeName, State.situation] using hhead
    | cons b opened => simpa [hopened, State.modeName, State.situation] using hhead
  · rw [Int64.ofInt_sub, ← scoreOf_eq_count]
    exact hnested.score

end ModalLexer.Language.C
