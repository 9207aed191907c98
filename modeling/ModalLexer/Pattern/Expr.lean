import ModalLexer.CharSet
import ModalLexer.Text.Basic

/-! # Regular expressions

The syntax trees of patterns, built by functions that bring them into a simple form: sequences and
alternations are flat, adjacent literals are one, alternatives of single characters are a set, and a
factor that begins all alternatives is taken out of them. Flags are resolved when a pattern is read,
so a tree has none.
-/

namespace ModalLexer.Pattern

/-- A condition on the place between two characters. For words, `unicode` tells which characters
belong to them. -/
inductive Anchor where
  | textStart
  | textEnd
  | lineStart
  | lineEnd
  /-- The start of a line that ends in a carriage return, a line feed or both. -/
  | anyLineStart
  /-- The end of a line that ends in a carriage return, a line feed or both. -/
  | anyLineEnd
  /-- One of the two characters belongs to a word and the other does not. -/
  | boundary (unicode : Bool)
  | notBoundary (unicode : Bool)
  | wordStart (unicode : Bool)
  | wordEnd (unicode : Bool)
  | notAfterWord (unicode : Bool)
  | notBeforeWord (unicode : Bool)
deriving DecidableEq, Repr

inductive Expr where
  | empty
  | literal (t : Text)
  /-- One character of a set, which does not have just one member. -/
  | set (s : CharSet)
  | anchor (a : Anchor)
  | group (index : Nat) (body : Expr)
  /-- Where `first` is no sequence. -/
  | cat (first second : Expr)
  /-- Where `first` is no alternation. -/
  | alt (first second : Expr)
  /-- At least `least` and at most `most` copies in a row, as many as possible or, if `lazy`, as few
  as possible. -/
  | rep (body : Expr) (least : Nat) (most : Option Nat) (lazy : Bool)
deriving DecidableEq, Repr

namespace Expr

/-- The number of bytes of the character with the code point `n`. -/
def codeSize (n : Nat) : Nat :=
  if n < 0x80 then 1 else if n < 0x800 then 2 else if n < 0x10000 then 3 else 4

/-- The number of bytes of the shortest match. An expression with a part that never matches has
none. -/
def minLength? : Expr → Option Nat
  | empty => some 0
  | literal t => some t.byteSize
  | set s => s.ranges.head?.map (codeSize ·.1)
  | anchor _ => some 0
  | group _ body => body.minLength?
  | cat a b => do return (← a.minLength?) + (← b.minLength?)
  | alt a b => do return min (← a.minLength?) (← b.minLength?)
  | rep body least _ _ => body.minLength?.map (· * least)

/-- The number of bytes of the longest match, if there is a longest one and every part can match. -/
def maxLength? : Expr → Option Nat
  | empty => some 0
  | literal t => some t.byteSize
  | set s => s.ranges.getLast?.map (codeSize ·.2)
  | anchor _ => some 0
  | group _ body => body.maxLength?
  | cat a b => do return (← a.maxLength?) + (← b.maxLength?)
  | alt a b => do return max (← a.maxLength?) (← b.maxLength?)
  | rep body _ most _ => do return (← body.maxLength?) * (← most)

/-- Whether a match may take no character. -/
def nullable (e : Expr) : Bool := e.minLength?.all (· = 0)

def fromStart : Expr → Bool
  | anchor a => a = .textStart
  | group _ body => body.fromStart
  | cat a b => a.fromStart || (a.maxLength? = some 0 && b.fromStart)
  | alt a b => a.fromStart && b.fromStart
  | rep body least _ _ => 0 < least && body.fromStart
  | _ => false

def toEnd : Expr → Bool
  | anchor a => a = .textEnd
  | group _ body => body.toEnd
  | cat a b => b.toEnd || (b.maxLength? = some 0 && a.toEnd)
  | alt a b => a.toEnd && b.toEnd
  | rep body least _ _ => 0 < least && body.toEnd
  | _ => false

/-- The greatest number of a group. -/
def groups : Expr → Nat
  | group index body => max index body.groups
  | cat a b => max a.groups b.groups
  | alt a b => max a.groups b.groups
  | rep body _ _ _ => body.groups
  | _ => 0

def ofSet (s : CharSet) : Expr :=
  match s.only? with
  | some c => literal [c]
  | none => set s

def factors : Expr → List Expr
  | empty => []
  | cat a b => a.factors ++ b.factors
  | e => [e]

def joinLiterals : List Expr → List Expr
  | [] => []
  | literal s :: es =>
    match joinLiterals es with
    | literal t :: rest => literal (s ++ t) :: rest
    | rest => literal s :: rest
  | e :: es => e :: joinLiterals es

/-- The sequence of factors that need no more joining. -/
def ofFactors : List Expr → Expr
  | [] => empty
  | [e] => e
  | e :: es => cat e (ofFactors es)

def sequence (es : List Expr) : Expr := ofFactors (joinLiterals (es.flatMap factors))

def alternatives : Expr → List Expr
  | alt a b => a.alternatives ++ b.alternatives
  | e => [e]

/-- The alternation of expressions that need no more change. -/
def ofAlternatives : List Expr → Expr
  | [] => set .empty
  | [e] => e
  | e :: es => alt e (ofAlternatives es)

/-- The character that the expression is, if it is one. -/
def char? : Expr → Option Char
  | literal [c] => some c
  | _ => none

def set? : Expr → Option CharSet
  | set s => some s
  | _ => none

/-- The number of leading factors that two sequences have in common. -/
def commonLength : List Expr → List Expr → Nat
  | a :: as, b :: bs => if a = b then commonLength as bs + 1 else 0
  | _, _ => 0

/-- The number of leading factors that all the sequences have in common. Expressions that are no
sequences have no factors here. -/
def sharedLength : List Expr → Nat
  | [] => 0
  | first :: others =>
    let front := if first matches cat .. then first.factors else []
    others.foldl
      (fun n e => min n (if e matches cat .. then commonLength front e.factors else 0))
      front.length

/-- The first of the expressions that matches. A common beginning is taken out at most `depth` times
on end. -/
def choiceUpTo : (depth : Nat) → List Expr → Expr
  | 0, es => ofAlternatives es
  | depth + 1, es =>
    let es := es.flatMap alternatives
    if es.length < 2 then ofAlternatives es
    else
      match es.mapM char?, es.mapM set? with
      | some cs, _ => ofSet (.ofChars cs)
      | none, some sets => ofSet (.unionAll sets)
      | none, none =>
        match sharedLength es, es with
        | n + 1, e :: _ =>
          let rest := choiceUpTo depth (es.map fun e => sequence (e.factors.drop (n + 1)))
          sequence (e.factors.take (n + 1) ++ [rest])
        | _, _ => ofAlternatives es

def size : Expr → Nat
  | group _ body => body.size + 1
  | cat a b => a.size + b.size + 1
  | alt a b => a.size + b.size + 1
  | rep body _ _ _ => body.size + 1
  | _ => 1

/-- The first of the expressions that matches. -/
def choice (es : List Expr) : Expr := choiceUpTo (es.foldl (fun n e => n + e.size) 1) es

/-- A repetition. What takes no character is repeated once at most. -/
def repeated (body : Expr) (least : Nat) (most : Option Nat) (lazy : Bool) : Expr :=
  let (least, most) :=
    if body.maxLength? = some 0 then (min least 1, some (min (most.getD 1) 1)) else (least, most)
  if most = some 0 then empty
  else if least = 1 ∧ most = some 1 then body
  else rep body least most lazy

end Expr

end ModalLexer.Pattern
