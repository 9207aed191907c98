import ModalLexer.Pattern.Expr

/-! # The effort of matching

Trying the ways through an expression in order takes long if there are many: the same place is then
come to again and again. A choice leaves more than one way only if the next character does not
decide it. The effort is an estimate for texts of a fixed length.
-/

namespace ModalLexer.Pattern

/-- The number of ways through an expression from some place, and of the steps that it takes to try
them all. -/
structure Effort where
  ways : Nat
  steps : Nat
deriving DecidableEq, Repr

namespace Effort

/-- The length of the texts for which the effort is estimated. -/
def textLength : Nat := 1000

/-- The number of steps from which on the effort is too great. -/
def limit : Nat := 16 * textLength

def straight (steps : Nat) : Effort := ⟨1, steps⟩

def excessive : Effort := ⟨limit, limit⟩

/-- No effort counts for more than one that is too great. -/
def capped (e : Effort) : Effort := ⟨min limit e.ways, min limit e.steps⟩

/-- The second effort on each of the ways of the first one. -/
def andThen (a b : Effort) : Effort := capped ⟨a.ways * b.ways, a.steps + a.ways * b.steps⟩

/-- One effort or the other, where the next character decides between them. -/
def either (a b : Effort) : Effort := ⟨max a.ways b.ways, max a.steps b.steps⟩

/-- Both efforts, one after the other has failed. -/
def both (a b : Effort) : Effort := capped ⟨a.ways + b.ways, a.steps + b.steps⟩

/-- The effort of a loop. On a single way it takes no more steps than there are characters. -/
def loop (body : Effort) (leaves : Bool) : Effort :=
  if 1 < body.ways then excessive
  else ⟨if leaves then textLength else 1, max textLength body.steps⟩

/-- The effort of `count` copies of which the last `optional` may be left out. If a copy leaves more
than one way, twenty copies are as many as it takes to exceed the limit. -/
def copies (body : Effort) (count optional : Nat) (leaves : Bool) : Effort :=
  let exits := if leaves then optional + 1 else 1
  if body.ways ≤ 1 then capped ⟨exits, min (count * body.steps) (max textLength body.steps)⟩
  else
    let ways := Nat.pow body.ways (min count 20)
    capped ⟨ways * exits, count * ways * body.steps⟩

end Effort

namespace Expr

/-- The characters with which the expression and what follows it may begin, where `follow` holds
those of what follows. -/
def starts (follow : CharSet) : Expr → CharSet
  | empty => follow
  | literal t => .ofChars (t.take 1)
  | set s => s
  | anchor _ => follow
  | group _ body => body.starts follow
  | cat a b => if a.nullable then a.starts (b.starts follow) else a.starts .empty
  | alt a b => (a.starts follow).union (b.starts follow)
  | rep body least _ _ =>
    if least = 0 then (body.starts follow).union follow else body.starts follow

/-- The effort of matching the expression, where `follow` holds the characters that may follow it.
The end of a match may follow any expression, and is no choice. -/
def effort (follow : CharSet) : Expr → Effort
  | empty => .straight 1
  | literal t => .straight t.length
  | set _ => .straight 1
  | anchor _ => .straight 1
  | group _ body => body.effort follow
  | cat a b => (a.effort (b.starts follow)).andThen (b.effort follow)
  | alt a b =>
    let first := a.effort follow
    let second := b.effort follow
    if (a.starts follow).disjoint (b.starts follow) then first.either second else first.both second
  | rep body least most _ =>
    let inner := body.effort ((body.starts follow).union follow)
    let leaves := !(body.starts follow).disjoint follow
    match most with
    | none => inner.loop leaves
    | some most => inner.copies most (most - least) leaves

/-- Whether it takes too long to try the ways through the expression in order. -/
def laborious (e : Expr) : Bool := Effort.limit ≤ (e.effort .empty).steps

end Expr

end ModalLexer.Pattern
