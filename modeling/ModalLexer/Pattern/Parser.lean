import ModalLexer.Pattern.Class
import ModalLexer.Pattern.Footprint
import ModalLexer.Text.Hexadecimal

/-! # Reading patterns

The grammar of patterns: literals, escapes, bracketed sets with nesting and set operations, groups,
alternation, repetition and flags. Every step reads at least one character, so the length of the
source bounds the number of steps.
-/

namespace ModalLexer.Pattern

inductive PatternError where
  | unclosedGroup
  | unopenedGroup
  | lookaround
  | invalidGroupName
  | duplicateGroupName
  | invalidFlags
  | nothingToRepeat
  | invalidCount
  | invalidEscape
  | unknownProperty
  | invalidSet
  /-- Without Unicode mode, something that would match a part of a character. -/
  | partOfCharacter
  | tooDeep
  | tooLarge
deriving DecidableEq, Repr

structure Flags where
  ignoreCase : Bool := false
  multiLine : Bool := false
  dotMatchesLineFeed : Bool := false
  swapGreed : Bool := false
  unicode : Bool := true
  crlf : Bool := false
  extended : Bool := false
deriving DecidableEq, Repr

/-- Sets the flag with the given letter, if there is one. -/
def Flags.set? (flags : Flags) (letter : Char) (value : Bool) : Option Flags :=
  match letter with
  | 'i' => some { flags with ignoreCase := value }
  | 'm' => some { flags with multiLine := value }
  | 's' => some { flags with dotMatchesLineFeed := value }
  | 'U' => some { flags with swapGreed := value }
  | 'u' => some { flags with unicode := value }
  | 'R' => some { flags with crlf := value }
  | 'x' => some { flags with extended := value }
  | _ => none

/-- The set together with the case variants that the flags ask for. -/
def Flags.fold (flags : Flags) (s : CharSet) : CharSet :=
  if flags.ignoreCase then if flags.unicode then Unicode.foldSet s else Unicode.foldSetAscii s
  else s

/-- The expression for a character that stands for itself. -/
def Flags.charExpr (flags : Flags) (c : Char) : Expr :=
  if !flags.ignoreCase then .literal [c]
  else if flags.unicode then .ofSet (.ofChars (Unicode.caseVariants c))
  else .ofSet (.ofChars [c, c.toLower, c.toUpper])

/-- Refuses a set that would match parts of characters. -/
def Flags.admit (flags : Flags) (s : CharSet) : Except PatternError CharSet :=
  if flags.unicode || s.isAscii then .ok s else .error .partOfCharacter

/-- Drops white space and comments; `inComment` tells whether a comment has begun. -/
def skipBlanks (inComment : Bool) : Text → Text
  | [] => []
  | c :: t =>
    if inComment then skipBlanks (c ≠ '\n') t
    else if Unicode.isSpace c then skipBlanks false t
    else if c = '#' then skipBlanks true t
    else c :: t

/-- Drops white space and comments if the pattern is written in extended form. -/
def skip (flags : Flags) (t : Text) : Text := if flags.extended then skipBlanks false t else t

/-- Reads digits, with blanks between them in extended form. -/
def readDigits (flags : Flags) : (fuel : Nat) → Text → Text × Text
  | 0, t => ([], t)
  | _ + 1, [] => ([], [])
  | fuel + 1, c :: t =>
    if c.isDigit then
      let (digits, rest) := readDigits flags fuel (skip flags t)
      (c :: digits, rest)
    else ([], c :: t)

def decimalValue (digits : Text) : Nat :=
  digits.foldl (fun n c => 10 * n + (c.toNat - '0'.toNat)) 0

/-- The greatest count and code point that can be written. -/
def maxNumber : Nat := 4294967295

/-- Reads a repetition count, which white space may surround. -/
def readCount (flags : Flags) (t : Text) : Except PatternError (Nat × Text) :=
  let t := t.dropWhile Unicode.isSpace
  let (digits, rest) := readDigits flags t.length t
  let value := decimalValue digits
  if digits.isEmpty ∨ maxNumber < value then .error .invalidCount
  else
    -- Blanks behind the count are dropped twice: as white space, and as the pattern's own blanks.
    let rest := rest.dropWhile Unicode.isSpace
    .ok (value, if flags.extended then skipBlanks false rest else rest)

def charOfCode? (n : Nat) : Option Char := if n.isValidChar then some (Char.ofNat n) else none

/-- Reads the `n` hexadecimal digits of a code point. -/
def readHex (flags : Flags) (value : Nat) : Nat → Text → Except PatternError (Char × Text)
  | 0, t =>
    match charOfCode? value with
    | some c => .ok (c, t)
    | none => .error .invalidEscape
  | _ + 1, [] => .error .invalidEscape
  | n + 1, c :: t =>
    match Text.hexValue? c with
    | some d => readHex flags (16 * value + d) n (skip flags t)
    | none => .error .invalidEscape

/-- Reads the hexadecimal digits of a code point up to the closing brace. -/
def readBracedHex (flags : Flags) (value : Option Nat) :
    (fuel : Nat) → Text → Except PatternError (Char × Text)
  | 0, _ | _ + 1, [] => .error .invalidEscape
  | fuel + 1, c :: t =>
    if c = '\x7d' then
      match value.bind charOfCode? with
      | some c => .ok (c, t)
      | none => .error .invalidEscape
    else
      match Text.hexValue? c with
      | some d => readBracedHex flags (some (16 * value.getD 0 + d)) fuel (skip flags t)
      | none => .error .invalidEscape

/-- What a single character or escape stands for. -/
inductive Primitive where
  | literal (c : Char)
  | anchor (a : Anchor)
  | set (s : CharSet)
deriving DecidableEq, Repr

/-- Reads a name in braces up to the closing one, without blanks and comments in extended form. -/
def readBracedName (flags : Flags) : (fuel : Nat) → Text → Except PatternError (Text × Text)
  | 0, _ | _ + 1, [] => .error .invalidEscape
  | fuel + 1, c :: t =>
    if c = '\x7d' then .ok ([], t)
    else do
      let (name, rest) ← readBracedName flags fuel (skip flags t)
      return (c :: name, rest)

/-- Reads the name of a property, one letter or several in braces. -/
def readProperty (flags : Flags) (negated : Bool) (t : Text) :
    Except PatternError (Primitive × Text) := do
  let (found, rest) ← match t with
    | [] => throw .invalidEscape
    | c :: t =>
      if c = '\x7b' then
        let (name, rest) ← readBracedName flags t.length (skip flags t)
        pure (bracedClass? name, rest)
      else if c = '\\' then throw .invalidEscape
      else pure (namedClass? (normalizeName [c]), t)
  unless flags.unicode do throw .partOfCharacter
  match found with
  | none => throw .unknownProperty
  | some s =>
    let s := flags.fold s
    return (.set (if negated then s.compl else s), rest)

/-- Characters that an escape makes literal: all ASCII characters other than letters, digits and
angle brackets. -/
def isEscapable (c : Char) : Bool :=
  c.toNat < 128 && !c.isAlphanum && c ≠ '<' && c ≠ '>'

/-- The letters and dashes in braces after a word boundary. -/
def readBoundaryName (flags : Flags) : (fuel : Nat) → Text → Text × Text
  | 0, t => ([], t)
  | _ + 1, [] => ([], [])
  | fuel + 1, c :: t =>
    if c.isAlpha || c = '-' then
      let (name, rest) := readBoundaryName flags fuel (skip flags t)
      (c :: name, rest)
    else ([], c :: t)

/-- Reads what may follow the escape of a word boundary: a name in braces that makes it a boundary
of a special kind. Braces with anything else are left, as they may be a repetition. -/
def readBoundary (flags : Flags) (t : Text) : Except PatternError (Primitive × Text) :=
  let plain := .ok (.anchor (.boundary flags.unicode), t)
  match t with
  | [] => plain
  | c :: inner =>
    if c ≠ '\x7b' then plain
    else
      match skip flags inner with
      | [] => .error .invalidEscape
      | d :: inner =>
        if !(d.isAlpha || d = '-') then plain
        else
          let (name, rest) := readBoundaryName flags (inner.length + 1) (d :: inner)
          match rest with
          | [] => .error .invalidEscape
          | e :: rest =>
            if e ≠ '\x7d' then .error .invalidEscape
            else
              match String.ofList name with
              | "start" => .ok (.anchor (.wordStart flags.unicode), rest)
              | "end" => .ok (.anchor (.wordEnd flags.unicode), rest)
              | "start-half" => .ok (.anchor (.notAfterWord flags.unicode), rest)
              | "end-half" => .ok (.anchor (.notBeforeWord flags.unicode), rest)
              | _ => .error .invalidEscape

/-- The class of digits, white space or word characters that a letter stands for. -/
def Flags.letterClass (flags : Flags) (letter : Char) : CharSet :=
  match letter with
  | 'd' => if flags.unicode then digits else asciiDigits
  | 's' => if flags.unicode then Unicode.spaces else asciiSpaces
  | _ => if flags.unicode then Unicode.wordChars else asciiWordChars

def readEscape (flags : Flags) : Text → Except PatternError (Primitive × Text)
  | [] => .error .invalidEscape
  | c :: t =>
    if c = 'd' ∨ c = 's' ∨ c = 'w' then .ok (.set (flags.letterClass c), t)
    else if c = 'D' ∨ c = 'S' ∨ c = 'W' then do
      return (.set (← flags.admit (flags.letterClass c.toLower).compl), t)
    else if c = 'x' ∨ c = 'u' ∨ c = 'U' then do
      let digits := if c = 'x' then 2 else if c = 'u' then 4 else 8
      let t := skip flags t
      if t.head? = some '\x7b' then
        let (c, rest) ← readBracedHex flags none t.length (skip flags t.tail)
        return (.literal c, rest)
      else
        let (d, rest) ← readHex flags 0 digits t
        if c = 'x' ∧ !flags.unicode ∧ 128 ≤ d.toNat then throw .partOfCharacter
        return (.literal d, rest)
    else if c = 'p' ∨ c = 'P' then readProperty flags (c = 'P') (skip flags t)
    else if isEscapable c then .ok (.literal c, t)
    else
      match c with
      | 'a' => .ok (.literal '\x07', t)
      | 'f' => .ok (.literal '\x0c', t)
      | 't' => .ok (.literal '\t', t)
      | 'n' => .ok (.literal '\n', t)
      | 'r' => .ok (.literal '\r', t)
      | 'v' => .ok (.literal '\x0b', t)
      | 'A' => .ok (.anchor .textStart, t)
      | 'z' => .ok (.anchor .textEnd, t)
      | 'b' => readBoundary flags t
      | 'B' => .ok (.anchor (.notBoundary flags.unicode), t)
      | '<' => .ok (.anchor (.wordStart flags.unicode), t)
      | '>' => .ok (.anchor (.wordEnd flags.unicode), t)
      | _ => .error .invalidEscape

inductive SetOp where
  | inter
  | diff
  | symmDiff
deriving DecidableEq, Repr

def SetOp.apply : SetOp → CharSet → CharSet → CharSet
  | inter, a, b => a.inter b
  | diff, a, b => a.diff b
  | symmDiff, a, b => a.symmDiff b

structure OpenSet where
  negated : Bool
  /-- The operand before the last set operation, with its depth. -/
  left : Option (SetOp × CharSet × Nat) := none
  /-- The items read since, the last one first. -/
  items : List CharSet := []
  /-- The depth of the deepest of these items. -/
  depth : Nat := 0
deriving Repr

/-- Adds an item of the given depth to the union. -/
def OpenSet.add (o : OpenSet) (s : CharSet) (depth : Nat) : OpenSet :=
  { o with items := s :: o.items, depth := max o.depth depth }

/-- The set read so far and its depth, with the last set operation carried out. -/
def OpenSet.value (flags : Flags) (o : OpenSet) : CharSet × Nat :=
  let right := .unionAll o.items.reverse
  let depth := if o.items.length < 2 then o.depth else o.depth + 1
  match o.left with
  | none => (right, depth)
  | some (op, left, leftDepth) =>
    (op.apply (flags.fold left) (flags.fold right), max leftDepth depth + 1)

/-- Begins the right operand of a set operation. -/
def OpenSet.operator (flags : Flags) (o : OpenSet) (op : SetOp) : OpenSet :=
  let (value, depth) := o.value flags
  { negated := o.negated, left := some (op, value, depth) }

/-- The set that the brackets enclose, and its depth. -/
def OpenSet.close (flags : Flags) (o : OpenSet) : Except PatternError (CharSet × Nat) := do
  let (value, depth) := o.value flags
  let value := flags.fold value
  return (← flags.admit (if o.negated then value.compl else value), depth + 1)

/-- Takes leading dashes, which stand for themselves. -/
def readDashes (flags : Flags) (o : OpenSet) : (fuel : Nat) → Text → OpenSet × Text
  | 0, t => (o, t)
  | _ + 1, [] => (o, [])
  | fuel + 1, c :: t =>
    if c = '-' then readDashes flags (o.add (.single '-') 0) fuel (skip flags t)
    else (o, c :: t)

/-- Reads the beginning of a set behind its bracket. A closing bracket that comes first stands for
itself. -/
def openSet (flags : Flags) (t : Text) : OpenSet × Text :=
  let t := skip flags t
  let negated := t.head? = some '^'
  let t := if negated then skip flags t.tail else t
  let (o, t) := readDashes flags { negated } t.length t
  if o.items.isEmpty ∧ t.head? = some ']' then (o.add (.single ']') 0, skip flags t.tail)
  else (o, t)

/-- Reads a class name such as `[:alpha:]` behind its first bracket, if there is one. -/
def readClassName (flags : Flags) (t : Text) : Option (CharSet × Text) := do
  let t ← if t.head? = some ':' then some t.tail else none
  let negated := t.head? = some '^'
  let t := if negated then t.tail else t
  let name := t.takeWhile (· ≠ ':')
  let rest := t.dropWhile (· ≠ ':')
  let rest ← if rest.take 2 = [':', ']'] then some (rest.drop 2) else none
  let s ← asciiClass? (String.ofList name)
  let s := flags.fold s
  return (if negated then s.compl else s, rest)

def readSetItem (flags : Flags) : Text → Except PatternError (Primitive × Text)
  | [] => .error .invalidSet
  | c :: t => if c = '\\' then readEscape flags t else .ok (.literal c, t)

def Primitive.toSet (flags : Flags) : Primitive → Except PatternError CharSet
  | literal c =>
    if flags.unicode || c.toNat < 128 then .ok (.single c) else .error .partOfCharacter
  | set s => .ok s
  | anchor _ => .error .invalidSet

/-- The character that tells whether a dash before the text makes a range. In extended form blanks
in front of it are passed over, and so is the sign of a comment, but not the comment. -/
def rangeSign? (flags : Flags) (t : Text) : Option Char :=
  if !flags.extended then t.head?
  else
    let t := t.dropWhile Unicode.isSpace
    if t.head? = some '#' then (t.tail.dropWhile Unicode.isSpace).head? else t.head?

/-- Reads a character, an escape or a range of characters of a set. A dash before a closing bracket
or before another dash makes no range. -/
def readSetRange (flags : Flags) (t : Text) : Except PatternError (CharSet × Text) := do
  let (first, t) ← readSetItem flags t
  let t := skip flags t
  let sign := rangeSign? flags t.tail
  if t.head? ≠ some '-' ∨ sign = some ']' ∨ sign = some '-' then
    return (← first.toSet flags, t)
  else
    let (last, t) ← readSetItem flags (skip flags t.tail)
    match first, last with
    | .literal a, .literal b =>
      if b < a then throw .invalidSet
      else if flags.unicode || b.toNat < 128 then return (.range a b, t)
      else throw .partOfCharacter
    | _, _ => throw .invalidSet

/-- Reads a set up to the bracket that closes it, with the sets around it, and tells its depth. -/
def readSet (flags : Flags) :
    (fuel : Nat) → OpenSet → List OpenSet → Text → Except PatternError (CharSet × Nat × Text)
  | 0, _, _, _ => .error .invalidSet
  | fuel + 1, o, outer, t =>
    match skip flags t with
    | [] => .error .invalidSet
    | c :: t =>
      if c = '[' then
        match readClassName flags t with
        | some (s, rest) =>
          match flags.admit s with
          | .ok s => readSet flags fuel (o.add s 0) outer rest
          | .error e => .error e
        | none =>
          let (inner, t) := openSet flags t
          readSet flags fuel inner (o :: outer) t
      else if c = ']' then
        match o.close flags, outer with
        | .error e, _ => .error e
        | .ok (s, depth), [] => .ok (s, depth, t)
        | .ok (s, depth), o :: outer => readSet flags fuel (o.add s depth) outer t
      else if c = '&' ∧ t.head? = some '&' then
        readSet flags fuel (o.operator flags .inter) outer t.tail
      else if c = '-' ∧ t.head? = some '-' then
        readSet flags fuel (o.operator flags .diff) outer t.tail
      else if c = '~' ∧ t.head? = some '~' then
        readSet flags fuel (o.operator flags .symmDiff) outer t.tail
      else
        match readSetRange flags (c :: t) with
        | .ok (s, rest) => readSet flags fuel (o.add s 0) outer rest
        | .error e => .error e

/-- An expression in a sequence, with its depth, or a change of flags. -/
inductive Item where
  | expr (e : Expr) (depth : Nat)
  | flags
deriving Repr

/-- A group that is not closed yet, or the whole pattern. Items and branches are in reverse. -/
structure OpenGroup where
  index : Option Nat
  outside : Flags
  branches : List (Expr × Nat) := []
  items : List Item := []
deriving Repr

/-- The items read since the last bar, as one expression with its depth. -/
def OpenGroup.branch (g : OpenGroup) : Expr × Nat :=
  let exprs := g.items.reverse.filterMap fun
    | .expr e _ => some e
    | .flags => none
  let itemDepth : Item → Nat
    | .expr _ n => n
    | .flags => 0
  let depth := g.items.foldl (fun d item => max d (itemDepth item)) 0
  (.sequence exprs, if g.items.length < 2 then depth else depth + 1)

def OpenGroup.bar (g : OpenGroup) : OpenGroup :=
  { g with branches := g.branch :: g.branches, items := [] }

/-- All branches of the group, as one expression with its depth. -/
def OpenGroup.body (g : OpenGroup) : Expr × Nat :=
  match (g.branch :: g.branches).reverse with
  | [] => (.empty, 0)
  | [b] => b
  | bs => (.choice (bs.map (·.1)), bs.foldl (fun d b => max d b.2) 0 + 1)

/-- The group as an item of the sequence around it. -/
def OpenGroup.close (g : OpenGroup) : Item :=
  let (e, depth) := g.body
  match g.index with
  | none => .expr e (depth + 1)
  | some index => .expr (.group index e) (depth + 1)

structure Reading where
  flags : Flags := {}
  nextGroup : Nat := 1
  names : List Text := []
  group : OpenGroup := { index := none, outside := {} }
  /-- The groups around it, the innermost first. -/
  outer : List OpenGroup := []
deriving Repr

def Reading.add (r : Reading) (item : Item) : Reading :=
  { r with group := { r.group with items := item :: r.group.items } }

def Reading.enter (r : Reading) (index : Option Nat) (flags : Flags) : Reading :=
  { r with
    flags
    nextGroup := if index.isSome then r.nextGroup + 1 else r.nextGroup
    group := { index, outside := r.flags }
    outer := r.group :: r.outer }

/-- Reads the flags of a group, up to and including the colon or the parenthesis behind them, which
`directive` tells apart. The flags seen so far are in reverse. -/
def readFlags (flags : Flags) (seen : List Char) :
    Text → Except PatternError (Flags × Bool × Text)
  | [] => .error .invalidFlags
  | c :: t =>
    if c = ':' ∨ c = ')' then
      if seen.head? = some '-' then .error .invalidFlags
      else if c = ')' ∧ seen = [] then .error .nothingToRepeat
      else .ok (flags, decide (c = ')'), t)
    else if c ∈ seen then .error .invalidFlags
    else if c = '-' then readFlags flags (c :: seen) t
    else
      match flags.set? c (¬ '-' ∈ seen) with
      | some flags => readFlags flags (c :: seen) t
      | none => .error .invalidFlags

def isNameStart (c : Char) : Bool := c = '_' || Unicode.isAlphabetic c

def isNamePart (c : Char) : Bool :=
  isNameStart c || Unicode.isNumber c || c = '.' || c = '[' || c = ']'

/-- Reads the name of a group up to the closing angle bracket. -/
def readGroupName (names : List Text) (t : Text) : Except PatternError (Text × Text) :=
  let name := t.takeWhile (· ≠ '>')
  match name, t.dropWhile (· ≠ '>') with
  | c :: cs, _ :: rest =>
    if !isNameStart c || cs.any (!isNamePart ·) then .error .invalidGroupName
    else if name ∈ names then .error .duplicateGroupName
    else .ok (name, rest)
  | _, _ => .error .invalidGroupName

/-- Reads the beginning of a group behind its parenthesis, or a change of flags. -/
def Reading.openGroup (r : Reading) (t : Text) : Except PatternError (Reading × Text) := do
  let t := skip r.flags t
  let opener := t.take 3
  if opener.take 2 = ['?', '='] ∨ opener.take 2 = ['?', '!'] ∨ opener = ['?', '<', '='] ∨
      opener = ['?', '<', '!'] then throw .lookaround
  else if opener = ['?', 'P', '<'] ∨ opener.take 2 = ['?', '<'] then
    let (name, rest) ← readGroupName r.names (t.drop (if opener.take 2 = ['?', '<'] then 2 else 3))
    return ({ r.enter (some r.nextGroup) r.flags with names := name :: r.names }, rest)
  else if opener.take 1 = ['?'] then
    let (flags, directive, rest) ← readFlags r.flags [] t.tail
    if directive then return ({ r with flags }.add .flags, rest)
    else return (r.enter none flags, rest)
  else return (r.enter (some r.nextGroup) r.flags, t)

def Reading.closeGroup (r : Reading) : Except PatternError Reading :=
  match r.outer with
  | [] => .error .unopenedGroup
  | g :: outer =>
    let outside := { r with flags := r.group.outside, group := g, outer }
    .ok (outside.add r.group.close)

def Reading.repeatLast (r : Reading) (least : Nat) (most : Option Nat) (lazy : Bool) :
    Except PatternError Reading :=
  match r.group.items with
  | .expr e depth :: items =>
    let front := { r with group := { r.group with items } }
    .ok (front.add (.expr (.repeated e least most (lazy != r.flags.swapGreed)) (depth + 1)))
  | _ => .error .nothingToRepeat

/-- Takes the question mark that makes a repetition lazy. -/
def readLazy : Text → Bool × Text
  | [] => (false, [])
  | c :: t => if c = '?' then (true, t) else (false, c :: t)

/-- Reads a counted repetition behind its brace. -/
def Reading.readCounted (r : Reading) (t : Text) : Except PatternError (Reading × Text) := do
  let (least, t) ← readCount r.flags (skip r.flags t)
  let (most, t) ←
    if t.head? = some ',' then
      let t := skip r.flags t.tail
      if t.head? = some '\x7d' then pure (none, t)
      else
        let (most, t) ← readCount r.flags t
        pure (some most, t)
    else pure (some least, t)
  if t.head? ≠ some '\x7d' then throw .invalidCount
  let (isLazy, t) := readLazy (skip r.flags t.tail)
  if most.any (· < least) then throw .invalidCount
  return (← r.repeatLast least most isLazy, t)

/-- What the primitive stands for in a sequence. -/
def Primitive.toExpr (flags : Flags) : Primitive → Expr
  | literal c => flags.charExpr c
  | anchor a => .anchor a
  | set s => .ofSet s

def Flags.dot (flags : Flags) : Except PatternError CharSet :=
  if !flags.unicode then .error .partOfCharacter
  else if flags.dotMatchesLineFeed then .ok .any
  else if flags.crlf then .ok (CharSet.ofChars ['\n', '\r']).compl
  else .ok (CharSet.single '\n').compl

def Flags.lineStart (flags : Flags) : Anchor :=
  if !flags.multiLine then .textStart else if flags.crlf then .anyLineStart else .lineStart

def Flags.lineEnd (flags : Flags) : Anchor :=
  if !flags.multiLine then .textEnd else if flags.crlf then .anyLineEnd else .lineEnd

def Reading.step (r : Reading) (c : Char) (t : Text) : Except PatternError (Reading × Text) := do
  match c with
  | '(' => r.openGroup t
  | ')' => return (← r.closeGroup, t)
  | '|' => return ({ r with group := r.group.bar }, t)
  | '[' =>
    let (o, t) := openSet r.flags t
    let (s, depth, t) ← readSet r.flags (t.length + 1) o [] t
    return (r.add (.expr (.ofSet s) depth), t)
  | '?' =>
    let (isLazy, t) := readLazy t
    return (← r.repeatLast 0 (some 1) isLazy, t)
  | '*' =>
    let (isLazy, t) := readLazy t
    return (← r.repeatLast 0 none isLazy, t)
  | '+' =>
    let (isLazy, t) := readLazy t
    return (← r.repeatLast 1 none isLazy, t)
  | '\x7b' => r.readCounted t
  | '\\' =>
    let (p, t) ← readEscape r.flags t
    return (r.add (.expr (p.toExpr r.flags) 0), t)
  | '.' => return (r.add (.expr (.ofSet (← r.flags.dot)) 0), t)
  | '^' => return (r.add (.expr (.anchor r.flags.lineStart) 0), t)
  | '$' => return (r.add (.expr (.anchor r.flags.lineEnd) 0), t)
  | c => return (r.add (.expr (r.flags.charExpr c) 0), t)

def Reading.finish : (fuel : Nat) → Reading → Text → Except PatternError Reading
  | 0, r, _ => .ok r
  | fuel + 1, r, t =>
    match skip r.flags t with
    | [] => .ok r
    | c :: t =>
      match r.step c t with
      | .ok (r, t) => finish fuel r t
      | .error e => .error e

/-- The depth to which groups, repetitions and sets can be nested. -/
def maxDepth : Nat := 250

def parse (source : Text) : Except PatternError Expr := do
  let r ← Reading.finish (source.length + 1) {} source
  unless r.outer.isEmpty do throw .unclosedGroup
  let (e, depth) := r.group.body
  if maxDepth < depth then throw .tooDeep
  unless e.fits do throw .tooLarge
  return e

end ModalLexer.Pattern
