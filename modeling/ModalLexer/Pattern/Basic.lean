import ModalLexer.Pattern.Construction
import ModalLexer.Pattern.Effort
import ModalLexer.Pattern.Parser

/-! # Patterns

A pattern is compiled from its source text and searched for in a text. The search finds the leftmost
match, and at its start the first one in the order of the alternatives.
-/

namespace ModalLexer

structure Pattern where
  matcher : Pattern.Matcher
  groups : Nat
  fromStart : Bool
deriving DecidableEq, Repr

namespace Pattern

/-- A match and the stretches that its groups took. -/
structure Captures where
  span : Span
  groups : List (Option Span)
deriving DecidableEq, Repr

/-- The stretch that the group with the given number took, where 0 is the whole match. -/
def Captures.get? (captures : Captures) (index : Nat) : Option Span :=
  if index = 0 then some captures.span else (captures.groups[index - 1]?).join

def ofExpr (e : Expr) : Pattern :=
  { matcher := (e.toMatcher (e.laborious || !e.fromStart) 0).1
    groups := e.groups
    fromStart := e.fromStart }

def compile (source : Text) : Except PatternError Pattern := do return ofExpr (← parse source)

/-- The first match that begins where `before` has just been read and `rest` is left, or the points
passed in search of it. -/
def matchFrom (p : Pattern) (before : Option Char) (offset : Nat) (rest : Text) (v : Visited) :
    Except Visited Captures :=
  let start : Progress := { before, rest, offset, groups := List.replicate (p.groups + 1) none }
  (p.matcher.start start v).map fun last =>
    { span := ⟨offset, last.offset⟩, groups := last.groups.tail }

/-- The leftmost match that begins after `before` or later. A point that led to no match leads to
none from any other start. -/
def searchFrom (p : Pattern) (before : Option Char) (offset : Nat) : Text → Visited →
    Option Captures
  | [], v => (p.matchFrom before offset [] v).toOption
  | c :: rest, v =>
    match p.matchFrom before offset (c :: rest) v with
    | .ok captures => some captures
    | .error v => searchFrom p (some c) (offset + c.utf8Size) rest v

/-- The leftmost match. A pattern tied to the start of the text is tried there only. -/
def search (p : Pattern) (t : Text) : Option Captures :=
  if p.fromStart then (p.matchFrom none 0 t {}).toOption else p.searchFrom none 0 t {}

end Pattern

end ModalLexer
