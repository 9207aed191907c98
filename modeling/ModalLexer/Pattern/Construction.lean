import ModalLexer.Pattern.Matcher

/-! # From expressions to matchers

Counted repetitions are written out, and points are placed where ways through the matcher divide or
meet: everywhere if `pointed`, and always in a loop over an expression that can match nothing.
-/

namespace ModalLexer.Pattern

namespace Matcher

/-- Nothing or `a`; `a` comes first unless `lazy`. -/
def opt (a : Matcher) (lazy : Bool) : Matcher := if lazy then alt empty a else alt a empty

/-- Any number of `a`. -/
def star (a : Matcher) (lazy : Bool) : Matcher := opt (plus a lazy) lazy

def ofText : Text → Matcher
  | [] => empty
  | [c] => set (.single c)
  | c :: t => cat (set (.single c)) (ofText t)

end Matcher

/-- Numbers the points of a matcher under construction. -/
abbrev Numbering := StateM Nat

def freshPoint : Numbering Matcher := modifyGet fun n => (.once n, n + 1)

/-- Puts `m` between two fresh points, if points are needed. -/
def enclose (pointed : Bool) (m : Matcher) : Numbering Matcher := do
  if pointed then
    let entry ← freshPoint
    let exit ← freshPoint
    return .cat entry (.cat m exit)
  else return m

/-- Puts a fresh point behind `m`, if points are needed. -/
def endWithPoint (pointed : Bool) (m : Matcher) : Numbering Matcher := do
  if pointed then return .cat m (← freshPoint) else return m

def copies (make : Numbering Matcher) : Nat → Numbering Matcher
  | 0 => return .empty
  | 1 => make
  | n + 1 => return .cat (← make) (← copies make n)

/-- Up to `n` copies, where each further copy is optional. -/
def optionalCopies (pointed : Bool) (make : Numbering Matcher) (lazy : Bool) :
    Nat → Numbering Matcher
  | 0 => return .empty
  | n + 1 => do
    let first ← make
    let more ← optionalCopies pointed make lazy n
    let m := Matcher.opt (if n = 0 then first else .cat first more) lazy
    if pointed then return .cat (← freshPoint) m else return m

def Expr.toMatcher (pointed : Bool) : Expr → Numbering Matcher
  | empty => if pointed then freshPoint else return .empty
  | literal t => return .ofText t
  | set s => return .set s
  | anchor a => if pointed then return .cat (← freshPoint) (.anchor a) else return .anchor a
  | group index body => do
    enclose pointed (.group index (← body.toMatcher pointed))
  | cat a b => return .cat (← a.toMatcher pointed) (← b.toMatcher pointed)
  | alt a b => do
    let first ← a.toMatcher pointed
    let second ← b.toMatcher pointed
    enclose pointed (.alt first second)
  | rep body least none lazy => do
    if body.nullable then
      let loop := do return Matcher.plus (← enclose true (← body.toMatcher true)) lazy
      if least = 0 then enclose pointed (.opt (← loop) lazy)
      else if least = 1 then loop
      else return .cat (← copies (body.toMatcher pointed) (least - 1)) (← loop)
    else if least = 0 then
      let m ← body.toMatcher pointed
      if pointed then
        let junction ← freshPoint
        return .cat junction (.star (.cat m junction) lazy)
      else return .star m lazy
    else
      let loop := do return Matcher.plus (← endWithPoint pointed (← body.toMatcher pointed)) lazy
      if least = 1 then loop
      else return .cat (← copies (body.toMatcher pointed) (least - 1)) (← loop)
  | rep body least (some most) lazy => do
    if most ≤ least then copies (body.toMatcher pointed) least
    else
      let more ← optionalCopies pointed (body.toMatcher pointed) lazy (most - least)
      let more ← endWithPoint pointed more
      if least = 0 then return more
      else return .cat (← copies (body.toMatcher pointed) least) more

end ModalLexer.Pattern
