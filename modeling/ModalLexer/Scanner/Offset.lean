import ModalLexer.Scanner.Basic

/-! # Scanners by offsets

The scanners as they go through the bytes of a text. Each looks up bytes by their offsets until it
knows the offset at which its token ends, and there the text is cut. The scan is abandoned if a byte
is looked up, or a slice begun, behind the end, and if the cut is inside a character.
-/

namespace ModalLexer

/-- The UTF-8 form of the text. -/
def Text.bytes (t : Text) : List UInt8 := t.flatMap String.utf8EncodeChar

/-- Why a scan by offsets is abandoned. -/
inductive OffsetError where
  | outOfRange
  | splitCharacter
deriving DecidableEq, Repr

abbrev Bytes := List UInt8

namespace Bytes

/-- The byte at offset `i`. -/
def look (b : Bytes) (i : Nat) : Except OffsetError UInt8 :=
  match b[i]? with
  | some c => .ok c
  | none => .error .outOfRange

/-- The byte at `n` bytes before offset `i`. -/
def lookBack (b : Bytes) (i n : Nat) : Except OffsetError UInt8 :=
  if n ≤ i then b.look (i - n) else .error .outOfRange

/-- The bytes from offset `start` on. -/
def slice (b : Bytes) (start : Nat) : Except OffsetError Bytes :=
  if start ≤ b.length then .ok (b.drop start) else .error .outOfRange

/-- The offset behind the first quote from `i` on that does not follow a backslash, or the offset of
a line feed that comes first. -/
def quotedEnd (quote : Char) (b : Bytes) (i : Nat) : Except OffsetError Nat :=
  if i < b.length then do
    let c ← b.look i
    let closes ←
      if c = quote.toUInt8 then (b.lookBack i 1).map (· != '\\'.toUInt8)
      else pure false
    if closes then return i + 1
    else if c = '\n'.toUInt8 then return i
    else quotedEnd quote b (i + 1)
  else return b.length
termination_by b.length - i

def backTickEnd (b : Bytes) : Except OffsetError Nat := do
  let behind ← b.slice (min 1 b.length)
  return (behind.findIdx? (· = '\x60'.toUInt8)).elim b.length (2 + ·)

/-- The offset behind three double quotes of which the last is at `i` or later. The search looks at
every third byte, and at the next one behind a quote. -/
def tripleQuoteEnd (b : Bytes) (i : Nat) : Except OffsetError Nat :=
  if i < b.length then do
    if (← b.look i) = '"'.toUInt8 then
      let closes ←
        if (← b.lookBack i 1) = '"'.toUInt8 then (b.lookBack i 2).map (· == '"'.toUInt8)
        else pure false
      if closes then return i + 1 else tripleQuoteEnd b (i + 1)
    else tripleQuoteEnd b (i + 3)
  else return b.length
termination_by b.length - i

def lineEnd (opener : Nat) (b : Bytes) : Except OffsetError Nat := do
  let start := min opener b.length
  let behind ← b.slice start
  return (behind.findIdx? (· = '\n'.toUInt8)).elim b.length (start + ·)

def starSlashEnd (b : Bytes) : Except OffsetError Nat := do
  let start := min 2 b.length
  let behind ← b.slice start
  let pairs := behind.zip behind.tail
  return (pairs.findIdx? (· = ('*'.toUInt8, '/'.toUInt8))).elim b.length (start + 2 + ·)

def isLineBreak (c : UInt8) : Bool := c = '\n'.toUInt8 || c = '\r'.toUInt8

def isBlank (c : UInt8) : Bool := c = 0x7f || (c ≤ ' '.toUInt8 && !isLineBreak c)

def isDigit (c : UInt8) : Bool := '0'.toUInt8 ≤ c && c ≤ '9'.toUInt8

def isOctalDigit (c : UInt8) : Bool := '0'.toUInt8 ≤ c && c ≤ '7'.toUInt8

def isHexDigit (c : UInt8) : Bool :=
  isDigit c || ('a'.toUInt8 ≤ c && c ≤ 'f'.toUInt8) || ('A'.toUInt8 ≤ c && c ≤ 'F'.toUInt8)

def isIdentifierPart (c : UInt8) : Bool :=
  c = '_'.toUInt8 || isDigit c || ('a'.toUInt8 ≤ c && c ≤ 'z'.toUInt8)
    || ('A'.toUInt8 ≤ c && c ≤ 'Z'.toUInt8)

/-- The offset of the first byte behind the first `first` bytes that is not of the class `more`. -/
def runEnd (more : UInt8 → Bool) (first : Nat) (b : Bytes) : Except OffsetError Nat := do
  let behind ← b.slice first
  return (behind.findIdx? (!more ·)).elim b.length (first + ·)

/-- The first offset from `i` on that is at the end, or at a byte that is not of the class `p`. -/
def skip (p : UInt8 → Bool) (b : Bytes) (i : Nat) : Nat :=
  if h : i < b.length then if p b[i] then skip p b (i + 1) else i else i
termination_by b.length - i

/-- The offset behind a sign at offset `i`, if there is one. -/
def signEnd (b : Bytes) (i : Nat) : Nat :=
  if b[i]? = some '+'.toUInt8 ∨ b[i]? = some '-'.toUInt8 then i + 1 else i

/-- The end of an exponent at offset `start`: `e`, an optional sign and at least one digit. -/
def exponentEnd? (b : Bytes) (start : Nat) : Option Nat := do
  let e ← b[start]?
  if e ||| 0x20 = 'e'.toUInt8 then
    let digits := signEnd b (start + 1)
    let d ← b[digits]?
    if isDigit d then some (skip isDigit b digits) else none
  else none

/-- An integer that ends at offset `i`, or a decimal if an exponent follows. -/
def integerOrExponent (b : Bytes) (i : Nat) : TokenType × Nat :=
  match exponentEnd? b i with
  | some stop => (.codeNumberDecimal, stop)
  | none => (.codeNumberInteger, i)

/-- A decimal with the digits of its fraction from offset `i` on. -/
def decimal (b : Bytes) (i : Nat) : TokenType × Nat :=
  let stop := skip isDigit b i
  (.codeNumberDecimal, (exponentEnd? b stop).getD stop)

/-- What a zero begins that is the first digit, before offset `i`. -/
def afterZero? (b : Bytes) (i : Nat) : Option (TokenType × Nat) :=
  match b[i]? with
  | none => some (.codeNumberInteger, i)
  | some c =>
    if isOctalDigit c then some (.codeNumberOctal, skip isOctalDigit b (i + 1))
    else if c = 'x'.toUInt8 ∨ c = 'X'.toUInt8 then do
      let d ← b[i + 1]?
      if isHexDigit d then some (.codeNumberHexadecimal, skip isHexDigit b (i + 1)) else none
    else if c = '.'.toUInt8 then some (decimal b (i + 1))
    else if c = '8'.toUInt8 ∨ c = '9'.toUInt8 then none
    else some (integerOrExponent b i)

/-- The type and the end of a number without a sign from offset `i` on. -/
def unsignedNumber? (b : Bytes) (i : Nat) : Option (TokenType × Nat) := do
  let c ← b[i]?
  if c = '.'.toUInt8 then
    let d ← b[i + 1]?
    if isDigit d then some (decimal b (i + 2)) else none
  else if isDigit c then
    if c = '0'.toUInt8 then afterZero? b (i + 1)
    else
      let stop := skip isDigit b (i + 1)
      if b[stop]? = some '.'.toUInt8 then some (decimal b (stop + 1))
      else some (integerOrExponent b stop)
  else none

/-- The type and the end of a number. -/
def number? (b : Bytes) : Option (TokenType × Nat) := unsignedNumber? b (signEnd b 0)

end Bytes

namespace Scanner

open Bytes

/-- The type of the token at the front of a text and the offset at which it ends. -/
def find (s : Scanner) (t : Text) : Except OffsetError (Option (TokenType × Nat)) :=
  let b := t.bytes
  let first := t.head?.elim 0 Char.utf8Size
  let typed (kind : TokenType) (stop : Except OffsetError Nat) := stop.map fun i => some (kind, i)
  match s with
  | singleQuoted => typed .codeStringSingle (quotedEnd '\'' b 1)
  | doubleQuoted => typed .codeStringDouble (quotedEnd '"' b 1)
  | backTick => typed .codeStringMultiline (backTickEnd b)
  | tripleQuoted => typed .codeStringMultiline (tripleQuoteEnd b 5)
  | oneCharComment => typed .codeComment (lineEnd 1 b)
  | twoCharComment => typed .codeComment (lineEnd 2 b)
  | slashStar => typed .codeComment (starSlashEnd b)
  | number => .ok (number? b)
  | whitespace => typed .textWhiteSpace (runEnd isBlank first b)
  | newlines => typed .textNewLine (runEnd isLineBreak first b)
  | identifier => typed .codeIdentifier (runEnd isIdentifierPart first b)

/-- Cuts the token off the front of a text, and returns it with the text that is left. -/
def pop (s : Scanner) (t : Text) : Except OffsetError (Option Token × Text) := do
  match ← s.find t with
  | none => return (none, t)
  | some (kind, stop) =>
    match t.splitBytes? (min stop t.byteSize) with
    | some (head, tail) => return (some ⟨some kind, head⟩, tail)
    | none => throw .splitCharacter

end Scanner

end ModalLexer
