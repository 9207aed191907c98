import ModalLexer.Text.Basic

/-! # File name patterns

A pattern is a list of items, each of which takes a stretch of a name. Matching keeps all that can
be left of the name behind an item, so it needs no backtracking. A star may take any characters,
also slashes and a leading dot.
-/

namespace ModalLexer

/-- Why a pattern is malformed, with the index of a character. -/
inductive GlobError where
  | stars (position : Nat)
  | mixedComponent (position : Nat)
  | unclosedRange (position : Nat)
deriving DecidableEq, Repr

namespace GlobError

def position : GlobError → Nat
  | stars n | mixedComponent n | unclosedRange n => n

def reason : GlobError → String
  | stars _ => "wildcards are either regular \x60*\x60 or recursive \x60**\x60"
  | mixedComponent _ => "recursive wildcards must form a single path component"
  | unclosedRange _ => "invalid range pattern"

def message (e : GlobError) : String :=
  s!"Pattern syntax error near position {e.position}: " ++ e.reason

end GlobError

namespace Glob

inductive Item where
  | char (c : Char)
  | anyChar
  /-- A character in one of the ranges, or in none of them. -/
  | range (negated : Bool) (ranges : List (Char × Char))
  | anyText
  /-- Any number of whole components of a path. -/
  | components
deriving DecidableEq, Repr

/-- The ranges between brackets. A dash between two characters makes a range of them. -/
def ranges : Text → List (Char × Char)
  | first :: '-' :: last :: t => (first, last) :: ranges t
  | c :: t => (c, c) :: ranges t
  | [] => []

/-- What stands between the brackets that open before the text, and the text behind them. -/
def splitBrackets? : Text → Option (Bool × Text × Text)
  | '!' :: c :: t =>
    match Text.splitWhile (· ≠ ']') t with
    | (set, _ :: rest) => some (true, c :: set, rest)
    | (_, []) => none
  | c :: t =>
    if c = '!' then none
    else
      match Text.splitWhile (· ≠ ']') t with
      | (set, _ :: rest) => some (false, c :: set, rest)
      | (_, []) => none
  | [] => none

theorem length_splitWhile_le {p : Char → Bool} {t head tail : Text}
    (h : Text.splitWhile p t = (head, tail)) : tail.length ≤ t.length := by
  have := congrArg List.length (Text.splitWhile_append (p := p) (t := t))
  simp only [h, List.length_append] at this
  omega

theorem length_lt_of_splitBrackets? {t set rest : Text} {negated : Bool}
    (h : splitBrackets? t = some (negated, set, rest)) : rest.length < t.length := by
  unfold splitBrackets? at h
  split at h
  · split at h
    · next heq => cases h; have := length_splitWhile_le heq; simp at this ⊢; omega
    · cases h
  · split at h
    · cases h
    · split at h
      · next heq => cases h; have := length_splitWhile_le heq; simp at this ⊢; omega
      · cases h
  · cases h

/-- Reads the items of a pattern, where `before` is the character read last and `position` the
number of those read. -/
def readFrom (position : Nat) (before : Option Char) : Text → Except GlobError (List Item)
  | [] => .ok []
  | c :: t =>
    if c = '*' then
      match h : Text.splitWhile (· = '*') t with
      | ([], _) => (readFrom (position + 1) (some c) t).map (.anyText :: ·)
      | ([_], rest) =>
        if before.all (· = '/') then
          match rest with
          | [] => .ok [.components]
          | d :: rest =>
            if d = '/' then (readFrom (position + 3) (some d) rest).map (.components :: ·)
            else .error (.mixedComponent (position + 2))
        else .error (.mixedComponent (position - 1))
      | _ => .error (.stars (position + 2))
    else if c = '[' then
      match h : splitBrackets? t with
      | some (negated, set, rest) =>
        (readFrom (position + (t.length - rest.length) + 1) (some ']') rest).map
          (.range negated (ranges set) :: ·)
      | none => .error (.unclosedRange position)
    else
      (readFrom (position + 1) (some c) t).map ((if c = '?' then .anyChar else .char c) :: ·)
termination_by t => t.length
decreasing_by
  · simp
  · have := length_splitWhile_le h; simp at this ⊢; omega
  · have := length_lt_of_splitBrackets? h; simp; omega
  · simp

/-- The text and all texts left by taking characters off its front. -/
def tails : Text → List Text
  | [] => [[]]
  | c :: t => (c :: t) :: tails t

/-- What follows each slash of the text. -/
def tailsBehindSlash : Text → List Text
  | [] => []
  | c :: t => if c = '/' then t :: tailsBehindSlash t else tailsBehindSlash t

/-- Takes one character that satisfies `p` off every text. -/
def stepChar (p : Char → Bool) (rests : List Text) : List Text :=
  rests.filterMap fun
    | c :: t => if p c then some t else none
    | [] => none

/-- The longest of the texts that can be left. -/
def longest : List Text → Text
  | [] => []
  | t :: ts =>
    let u := longest ts
    if u.length < t.length then t else u

namespace Item

def inRanges (c : Char) (ranges : List (Char × Char)) : Bool :=
  ranges.any fun (first, last) => first ≤ c && c ≤ last

/-- What can be left behind the item, where `rests` is what can be left before it. -/
def step : Item → List Text → List Text
  | _, [] => []
  | char c, rests => stepChar (· = c) rests
  | anyChar, rests => stepChar (fun _ => true) rests
  | range negated ranges, rests => stepChar (fun c => inRanges c ranges ≠ negated) rests
  | anyText, rests => tails (longest rests)
  | components, rests => rests ++ tailsBehindSlash (longest rests) ++ [[]]

end Item

end Glob

structure Glob where
  items : List Glob.Item
deriving DecidableEq, Repr

namespace Glob

def parse (source : Text) : Except GlobError Glob := (readFrom 0 none source).map Glob.mk

def isMatch (g : Glob) (name : Text) : Bool :=
  (g.items.foldl (fun rests item => item.step rests) [name]).any (·.isEmpty)

end Glob

end ModalLexer
