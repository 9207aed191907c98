import ModalLexer.Text.Basic

/-! # Strings, comments and runs

Splits of a text behind a string, a comment or a run of characters of one class. The opening
character is not examined: every split takes it, whatever it is, and looks for the end behind it.
-/

namespace ModalLexer.Text

/-- Tabs, spaces and the controls other than line breaks. -/
def isBlank (c : Char) : Bool := c = '\x7f' || (c ≤ ' ' && c ≠ '\n' && c ≠ '\r')

def isLineBreak (c : Char) : Bool := c = '\n' || c = '\r'

def isIdentifierStart (c : Char) : Bool := c = '_' || c.isAlpha

def isIdentifierPart (c : Char) : Bool := c = '_' || c.isAlphanum

/-- Takes the first character, and then goes on with `split`. -/
def splitBehindFirst (split : Char → Text → Text × Text) : Text → Text × Text
  | [] => ([], [])
  | c :: t =>
    let (body, rest) := split c t
    (c :: body, rest)

/-- Splits behind the first `quote` that does not follow a backslash, or before a line feed if that
comes first. The character just before the text is `before`. -/
def splitQuoted (quote before : Char) : Text → Text × Text
  | [] => ([], [])
  | c :: t =>
    if c = quote ∧ before ≠ '\\' then ([c], t)
    else if c = '\n' then ([], c :: t)
    else
      let (body, rest) := splitQuoted quote c t
      (c :: body, rest)

def splitThrough (stop : Char) : Text → Text × Text
  | [] => ([], [])
  | c :: t =>
    if c = stop then ([c], t)
    else
      let (body, rest) := splitThrough stop t
      (c :: body, rest)

/-- Splits behind the first three double quotes in a row. A character other than a quote rules out
all three places that it could take in the delimiter, so the search moves on by three. -/
def splitThroughTripleQuote : Text → Text × Text
  | a :: b :: c :: t =>
    if c ≠ '"' then
      let (body, rest) := splitThroughTripleQuote t
      (a :: b :: c :: body, rest)
    else if a = '"' ∧ b = '"' then ([a, b, c], t)
    else
      let (body, rest) := splitThroughTripleQuote (b :: c :: t)
      (a :: body, rest)
  | t => (t, [])

/-- Splits behind the first star with a slash after it. -/
def splitThroughStarSlash : Text → Text × Text
  | [] => ([], [])
  | [c] => ([c], [])
  | c :: d :: t =>
    if c = '*' ∧ d = '/' then ([c, d], t)
    else
      let (body, rest) := splitThroughStarSlash (d :: t)
      (c :: body, rest)

/-- A string between single characters `quote`, with backslash escapes, within one line. -/
def quotedString (quote : Char) (t : Text) : Text × Text :=
  splitBehindFirst (splitQuoted quote) t

/-- A string up to the next back-tick, without escapes. -/
def backTickString (t : Text) : Text × Text :=
  splitBehindFirst (fun _ => splitThrough '\x60') t

/-- Takes the characters that begin before byte `n`, and then goes on with `split`. -/
def splitBehindOpener (n : Nat) (split : Text → Text × Text) (t : Text) : Text × Text :=
  let (opener, behind) := splitCovering n t
  let (body, rest) := split behind
  (opener ++ body, rest)

/-- A string up to the next three double quotes behind its opener, without escapes. -/
def tripleQuotedString (t : Text) : Text × Text :=
  splitBehindOpener 3 splitThroughTripleQuote t

/-- A comment with an opener of `n` bytes, up to the end of the line. -/
def lineComment (n : Nat) (t : Text) : Text × Text :=
  splitBehindOpener n (splitWhile (· ≠ '\n')) t

/-- A comment up to the next star and slash behind its opener. -/
def starComment (t : Text) : Text × Text :=
  splitBehindOpener 2 splitThroughStarSlash t

/-- The first character and the characters after it for which `p` holds. -/
def run (p : Char → Bool) (t : Text) : Text × Text :=
  splitBehindFirst (fun _ => splitWhile p) t

variable {t : Text}

theorem splitBehindFirst_append {split : Char → Text → Text × Text}
    (h : ∀ c t, (split c t).1 ++ (split c t).2 = t) :
    (splitBehindFirst split t).1 ++ (splitBehindFirst split t).2 = t := by
  cases t with
  | nil => rfl
  | cons c t => simp [splitBehindFirst, h]

theorem splitBehindOpener_append {n : Nat} {split : Text → Text × Text}
    (h : ∀ t, (split t).1 ++ (split t).2 = t) :
    (splitBehindOpener n split t).1 ++ (splitBehindOpener n split t).2 = t := by
  simp [splitBehindOpener, h, splitCovering_append]

theorem splitQuoted_append (quote before : Char) (t : Text) :
    (splitQuoted quote before t).1 ++ (splitQuoted quote before t).2 = t := by
  fun_induction splitQuoted quote before t <;> simp_all

theorem splitThrough_append (stop : Char) (t : Text) :
    (splitThrough stop t).1 ++ (splitThrough stop t).2 = t := by
  fun_induction splitThrough stop t <;> simp_all

theorem splitThroughTripleQuote_append (t : Text) :
    (splitThroughTripleQuote t).1 ++ (splitThroughTripleQuote t).2 = t := by
  fun_induction splitThroughTripleQuote t <;> simp_all

theorem splitThroughStarSlash_append (t : Text) :
    (splitThroughStarSlash t).1 ++ (splitThroughStarSlash t).2 = t := by
  fun_induction splitThroughStarSlash t <;> simp_all

theorem quotedString_append (quote : Char) (t : Text) :
    (quotedString quote t).1 ++ (quotedString quote t).2 = t :=
  splitBehindFirst_append fun c t => splitQuoted_append quote c t

theorem backTickString_append (t : Text) :
    (backTickString t).1 ++ (backTickString t).2 = t :=
  splitBehindFirst_append fun _ t => splitThrough_append _ t

theorem tripleQuotedString_append (t : Text) :
    (tripleQuotedString t).1 ++ (tripleQuotedString t).2 = t :=
  splitBehindOpener_append splitThroughTripleQuote_append

theorem lineComment_append (n : Nat) (t : Text) :
    (lineComment n t).1 ++ (lineComment n t).2 = t :=
  splitBehindOpener_append fun _ => splitWhile_append

theorem starComment_append (t : Text) :
    (starComment t).1 ++ (starComment t).2 = t :=
  splitBehindOpener_append splitThroughStarSlash_append

theorem run_append (p : Char → Bool) (t : Text) : (run p t).1 ++ (run p t).2 = t :=
  splitBehindFirst_append fun _ _ => splitWhile_append

end ModalLexer.Text
