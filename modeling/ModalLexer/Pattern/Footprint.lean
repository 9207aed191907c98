import ModalLexer.CharSet.ByteRanges
import ModalLexer.Pattern.Expr
import Std.Data.TreeMap.Basic

/-! # The size of the automaton of a pattern

A pattern is refused if its automaton over bytes takes more than ten mebibytes. The automaton has
states with one step each, branchings, and tables of steps; it is measured in both directions of
reading, where the groups count in the forward direction only. Sets of characters beyond ASCII share
states: a table remembers recent states, and forgets one when another takes its slot.
-/

namespace ModalLexer.Pattern

/-- The size of an automaton: its states, and the bytes of its branchings and tables. -/
structure Footprint where
  states : Nat
  extra : Nat
deriving DecidableEq, Repr

namespace Footprint

/-- The bytes of a state without its table. -/
def stateSize : Nat := 32

/-- The bytes of an alternative of a branching. -/
def branchSize : Nat := 4

/-- The bytes of a step in a table. -/
def stepSize : Nat := 8

/-- The greatest size of an automaton. -/
def maxBytes : Nat := 10485760

def bytes (f : Footprint) : Nat := stateSize * f.states + f.extra

def exceeded (f : Footprint) : Bool := maxBytes < f.bytes

def addStates (n : Nat) (f : Footprint) : Footprint := { f with states := f.states + n }

def branching (alternatives : Nat) (f : Footprint) : Footprint :=
  ⟨f.states + 1, f.extra + branchSize * alternatives⟩

def table (steps : Nat) (f : Footprint) : Footprint :=
  ⟨f.states + 1, f.extra + stepSize * steps⟩

/-- Adds `n` copies of a part, or as many as exceed the greatest size. -/
def copies (part : Footprint → Footprint) : (n : Nat) → Footprint → Footprint
  | 0, f => f
  | n + 1, f => if f.exceeded then f else copies part n (part f)

end Footprint

/-- The recent states by slot: what each one does, and its number. -/
abbrev Recent := Std.TreeMap Nat (List Nat × Nat)

/-- The slot for what a state does, among as many slots. -/
def slotOf (slots : Nat) (key : List Nat) : Nat :=
  (key.foldl (fun h n => (h ^^^ n.toUInt64) * 1099511628211) (14695981039346656037 : UInt64)).toNat
    % slots

structure Sharing where
  footprint : Footprint
  recent : Recent := {}

/-- The number of a state that does what `key` tells; it is added by `add` unless it is among the
recent ones. -/
def Sharing.state (slots : Nat) (key : List Nat) (add : Footprint → Footprint) (s : Sharing) :
    Nat × Sharing :=
  let slot := slotOf slots key
  match s.recent[slot]? with
  | some (found, number) =>
    if found = key then (number, s)
    else (s.footprint.states, ⟨add s.footprint, s.recent.insert slot (key, s.footprint.states)⟩)
  | none => (s.footprint.states, ⟨add s.footprint, s.recent.insert slot (key, s.footprint.states)⟩)

/-- A table that may still get steps: the steps that are complete, each as first byte, last byte and
next state, and the bytes of the step in progress. -/
structure OpenTable where
  steps : List Nat := []
  last : Option (Nat × Nat) := none

/-- Completes the step in progress. -/
def OpenTable.complete (t : OpenTable) (next : Nat) : OpenTable :=
  match t.last with
  | none => t
  | some (first, last) => { steps := t.steps ++ [first, last, next] }

def Sharing.close (t : OpenTable) (s : Sharing) : Nat × Sharing :=
  s.state 10000 t.steps (Footprint.table (t.steps.length / 3))

/-- Closes tables from the last one on, and tells the number of the first one. -/
def Sharing.closeAll (target : Nat) : List OpenTable → Sharing → Nat × Sharing
  | [], s => (target, s)
  | t :: ts, s =>
    let (next, s) := s.closeAll target ts
    s.close (t.complete next)

/-- Adds a sequence of byte ranges below a list of tables, one for each byte. What the sequence has
in common with the one before stays open. -/
def Sharing.add (target : Nat) : List (Nat × Nat) → List OpenTable → Sharing →
    List OpenTable × Sharing
  | [], ts, s => (ts, s)
  | r :: rs, [], s => ({ last := some r } :: rs.map fun r => { last := some r }, s)
  | r :: rs, t :: ts, s =>
    if t.last = some r then
      let (ts, s) := s.add target rs ts
      (t :: ts, s)
    else
      let (next, s) := s.closeAll target ts
      ({ t.complete next with last := some r } :: rs.map fun r => { last := some r }, s)

namespace Footprint

/-- Adds the automaton that reads a set of characters forwards. -/
def setForward (s : CharSet) (f : Footprint) : Footprint :=
  let target := f.states
  let (tables, sharing) := s.byteSequences.foldl
    (fun (tables, sharing) sequence => Sharing.add target sequence tables sharing)
    ([{}], { footprint := f.addStates 1 })
  (Sharing.closeAll target tables sharing).2.footprint

/-- Adds the states of one sequence, from the last byte to read to the first one. -/
def sequenceBackward (sequence : List (Nat × Nat)) (target : Nat) (s : Sharing) : Sharing :=
  (sequence.foldl
    (fun (next, s) r => Sharing.state 1000 [next, r.1, r.2] (addStates 1) s)
    (target, s)).2

/-- Adds the automaton that reads a set of characters backwards. -/
def setBackward (s : CharSet) (f : Footprint) : Footprint :=
  let sequences := s.byteSequences
  let f := f.branching sequences.length
  let target := f.states
  (sequences.foldl (fun sharing sequence => sequenceBackward sequence target sharing)
    { footprint := f.addStates 1 }).footprint

/-- Adds the automaton that reads one character of a set. -/
def charSet (backward : Bool) (s : CharSet) (f : Footprint) : Footprint :=
  if s.isAscii then (f.addStates 1).table s.ranges.length
  else if backward then f.setBackward s
  else f.setForward s

/-- The distinct first elements of words, each with the rests of its words. -/
def byFirst : List (List Nat) → List (Nat × List (List Nat))
  | [] => []
  | [] :: ws => byFirst ws
  | (b :: w) :: ws =>
    let groups := byFirst ws
    match groups.lookup b with
    | some rests => (b, w :: rests) :: groups.filter (·.1 ≠ b)
    | none => (b, [w]) :: groups

/-- The words between empty ones. An empty word counts once as long as no other word came. -/
def betweenEmpty (started : Bool) : List (List Nat) → List (List (List Nat))
  | [] => [[]]
  | [] :: ws => if started then [] :: betweenEmpty started ws else betweenEmpty started ws
  | w :: ws =>
    match betweenEmpty true ws with
    | [] => [[w]]
    | chunk :: chunks => (w :: chunk) :: chunks

/-- Adds the tree of words of `depth` bytes at most, in which a longer word may continue a shorter
one. -/
def wordTree : (depth : Nat) → List (List Nat) → Footprint → Footprint
  | 0, _, f => f
  | depth + 1, words, f =>
    let chunks := match words with
      | [] :: ws => [] :: betweenEmpty false ws
      | ws => betweenEmpty true ws
    let (f, branches) := chunks.foldl
      (fun (f, branches) chunk =>
        let groups := byFirst chunk
        let f := groups.foldl
          (fun f group => if group.2.all (·.isEmpty) then f else wordTree depth group.2 f) f
        if groups.isEmpty then (f, branches)
        else (if groups.length = 1 then f.addStates 1 else f.table groups.length, branches + 1))
      (f, chunks.length - 1)
    f.branching branches

/-- Adds the automaton that reads one of several words. -/
def words (backward : Bool) (ts : List Text) (f : Footprint) : Footprint :=
  let encoded := ts.map fun t => t.flatMap fun c => CharSet.encode c.toNat
  let encoded := if backward then encoded.map (·.reverse) else encoded
  wordTree ((encoded.map (·.length)).foldl max 0 + 1) encoded (f.addStates 1)

end Footprint

namespace Expr

def literal? : Expr → Option Text
  | literal t => some t
  | _ => none

/-- Adds the automaton of an expression, with the step that leads on from it. In an alternation,
`behind` alternatives have been added before; its branching and its end come behind the second. -/
def addFootprint (backward : Bool) : (behind : Nat) → Expr → Footprint → Footprint
  | _, empty, f => f.addStates 1
  | _, literal t, f => f.addStates t.byteSize
  | _, set s, f => f.charSet backward s
  | _, anchor _, f => f.addStates 1
  | _, group _ body, f =>
    if backward then body.addFootprint backward 0 f
    else (body.addFootprint backward 0 (f.addStates 1)).addStates 1
  | _, cat a b, f =>
    if backward then a.addFootprint backward 0 (b.addFootprint backward 0 f)
    else b.addFootprint backward 0 (a.addFootprint backward 0 f)
  | behind, alt a b, f =>
    match behind, (alt a b).alternatives.mapM literal? with
    | 0, some ts => f.words backward ts
    | _, _ =>
      let f := a.addFootprint backward 0 { f with extra := f.extra + Footprint.branchSize }
      let f := if behind = 1 then f.addStates 2 else f
      if b matches alt .. then b.addFootprint backward (behind + 1) f
      else
        let f := b.addFootprint backward 0 { f with extra := f.extra + Footprint.branchSize }
        if behind = 0 then f.addStates 2 else f
  | _, rep body least none _, f =>
    let part := body.addFootprint backward 0
    if least = 0 then
      if body.nullable then (((part f).branching 2).branching 2).addStates 1
      else part (f.branching 2)
    else (Footprint.copies part least f).branching 2
  | _, rep body least (some most) _, f =>
    let part := body.addFootprint backward 0
    if least = 0 ∧ most = 1 then (part (f.branching 2)).addStates 1
    else if most ≤ least then Footprint.copies part least f
    else
      let f := if least = 0 then f.addStates 1 else Footprint.copies part least f
      Footprint.copies (fun f => part (f.branching 2)) (most - least) (f.addStates 1)

/-- The automaton that reads forwards. Unless every match begins at the start of the text, it skips
what is in front. The whole match counts as a group. -/
def forwardFootprint (e : Expr) : Footprint :=
  let f : Footprint := ⟨0, 0⟩
  let f := if e.fromStart then f.addStates 1 else ((f.branching 2).addStates 1).table 1
  (e.addFootprint false 0 (f.addStates 1)).addStates 2

def backwardFootprint (e : Expr) : Footprint :=
  let f : Footprint := ⟨0, 0⟩
  let f := if e.toEnd then f.addStates 1 else ((f.branching 2).addStates 1).table 1
  (e.addFootprint true 0 f).addStates 1

/-- A number of bytes that neither automaton exceeds. A range of characters has at most 24 sequences
of at most four bytes. -/
def footprintBound : Expr → Nat
  | empty => 40
  | literal t => 100 * t.byteSize
  | set s => 100 + (if s.isAscii then 8 else 5000) * s.ranges.length
  | anchor _ => 40
  | group _ body => body.footprintBound + 100
  | cat a b => a.footprintBound + b.footprintBound
  | alt a b => a.footprintBound + b.footprintBound + 100
  | rep body least most _ => (body.footprintBound + 50) * max 1 (max least (most.getD 0)) + 200

/-- Whether both automata are small enough. They are not measured if there is no doubt. -/
def fits (e : Expr) : Bool :=
  e.footprintBound + 1000 ≤ Footprint.maxBytes ||
    (!e.forwardFootprint.exceeded && !e.backwardFootprint.exceeded)

end Expr

end ModalLexer.Pattern
