import ModalLexer.Pattern.Expr
import ModalLexer.Unicode.Word
import Std.Data.TreeSet.Basic

/-! # Matching

A matcher is an expression with its repetitions reduced to one-or-more loops. It is run by
backtracking: alternatives are tried in order, and the first way through the whole matcher wins.
`once` nodes mark points of the matcher that are passed at most once at each place in the text. A
loop over an expression that can match nothing ends at such a point; elsewhere points save the work
of failing twice in the same way.
-/

namespace ModalLexer.Pattern

/-- A stretch of a text, in bytes. -/
structure Span where
  start : Nat
  stop : Nat
deriving DecidableEq, Repr

inductive Matcher where
  | empty
  | set (s : CharSet)
  | anchor (a : Anchor)
  | group (index : Nat) (body : Matcher)
  | cat (first second : Matcher)
  | alt (first second : Matcher)
  /-- One or more times `body`. -/
  | plus (body : Matcher) (lazy : Bool)
  /-- A point that is passed at most once at each place. -/
  | once (point : Nat)
deriving DecidableEq, Repr

structure Progress where
  before : Option Char
  rest : Text
  offset : Nat
  /-- The latest match of each group. -/
  groups : List (Option Span)
deriving DecidableEq, Repr

/-- The points that have been passed, each with the offset of the place. -/
abbrev Visited := Std.TreeSet (Nat × Nat) (compareLex (compareOn Prod.fst) (compareOn Prod.snd))

/-- How a way through a matcher ends: a match, or a failure with all points passed so far. -/
abbrev Way := Except Visited Progress

/-- The first way unless it fails, or else the second one. -/
def Way.orElse (first : Way) (second : Visited → Way) : Way :=
  match first with
  | .ok p => .ok p
  | .error v => second v

def isWordChar (unicode : Bool) (c : Char) : Bool :=
  if unicode then Unicode.isWord c else c.isAlphanum || c = '_'

/-- Whether the condition holds between the character `before` and the text `rest`. -/
def Anchor.holds (before : Option Char) (rest : Text) : Anchor → Bool
  | textStart => before = none
  | textEnd => rest = []
  | lineStart => before = none || before = some '\n'
  | lineEnd => rest = [] || rest.head? = some '\n'
  | anyLineStart =>
    before = none || before = some '\n' || (before = some '\r' && rest.head? ≠ some '\n')
  | anyLineEnd =>
    rest = [] || rest.head? = some '\r' || (rest.head? = some '\n' && before ≠ some '\r')
  | boundary unicode => before.any (isWordChar unicode) != rest.head?.any (isWordChar unicode)
  | notBoundary unicode => before.any (isWordChar unicode) == rest.head?.any (isWordChar unicode)
  | wordStart unicode => !before.any (isWordChar unicode) && rest.head?.any (isWordChar unicode)
  | wordEnd unicode => before.any (isWordChar unicode) && !rest.head?.any (isWordChar unicode)
  | notAfterWord unicode => !before.any (isWordChar unicode)
  | notBeforeWord unicode => !rest.head?.any (isWordChar unicode)

/-- Repeats `body` as long as it reads characters, and goes on with `next` after each repetition.
There are no more repetitions than characters in `left`. -/
def iterate (body : (Progress → Visited → Way) → Progress → Visited → Way) (lazy : Bool)
    (next : Progress → Visited → Way) : (left : Text) → Progress → Visited → Way
  | [], p, v => body next p v
  | _ :: left, p, v =>
    body
      (fun q v =>
        if q.offset = p.offset then next q v
        else if lazy then (next q v).orElse (iterate body lazy next left q)
        else (iterate body lazy next left q v).orElse (next q))
      p v

/-- The first way through the matcher on which `next` succeeds. -/
def Matcher.run : Matcher → (Progress → Visited → Way) → Progress → Visited → Way
  | empty, next, p, v => next p v
  | set s, next, p, v =>
    match p.rest with
    | [] => .error v
    | c :: rest =>
      if s.contains c then
        next { p with before := some c, rest, offset := p.offset + c.utf8Size } v
      else .error v
  | anchor a, next, p, v => if a.holds p.before p.rest then next p v else .error v
  | group index body, next, p, v =>
    body.run
      (fun q => next { q with groups := q.groups.set index (some ⟨p.offset, q.offset⟩) })
      p v
  | cat a b, next, p, v => a.run (b.run next) p v
  | alt a b, next, p, v => (a.run next p v).orElse (b.run next p)
  | plus body lazy, next, p, v => iterate body.run lazy next p.rest p v
  | once point, next, p, v =>
    if v.contains (p.offset, point) then .error v else next p (v.insert (p.offset, point))

def Matcher.start (m : Matcher) (p : Progress) (v : Visited) : Way := m.run (fun q _ => .ok q) p v

end ModalLexer.Pattern
