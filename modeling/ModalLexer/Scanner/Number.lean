import ModalLexer.Text.Basic
import ModalLexer.TokenType

/-! # Number literals

A number is an optional sign and a hexadecimal, octal, decimal or integer literal. An exponent
belongs to a literal only with its digits, and a leading zero followed by 8 or 9 starts no literal.
-/

namespace ModalLexer.Text

def isOctalDigit (c : Char) : Bool := '0' ≤ c && c ≤ '7'

def isHexDigit (c : Char) : Bool :=
  c.isDigit || ('a' ≤ c && c ≤ 'f') || ('A' ≤ c && c ≤ 'F')

/-- A literal at the front of a text, with its type and the text behind it. -/
structure Literal where
  kind : TokenType
  text : Text
  rest : Text

/-- Puts a text in front of the literal. -/
def Literal.cons (front : Text) (l : Literal) : Literal := { l with text := front ++ l.text }

def splitSign : Text → Text × Text
  | [] => ([], [])
  | c :: t => if c = '+' ∨ c = '-' then ([c], t) else ([], c :: t)

/-- An exponent at the front: `e`, an optional sign and at least one digit. -/
def exponent? : Text → Option (Text × Text)
  | [] => none
  | e :: t =>
    if e = 'e' ∨ e = 'E' then
      let (sign, t) := splitSign t
      let (digits, rest) := splitWhile Char.isDigit t
      if digits.isEmpty then none else some (e :: (sign ++ digits), rest)
    else none

/-- What follows the digits of an integer part without a point: an exponent, or nothing. -/
def integerOrExponent (t : Text) : Literal :=
  match exponent? t with
  | some (exponent, rest) => ⟨.codeNumberDecimal, exponent, rest⟩
  | none => ⟨.codeNumberInteger, [], t⟩

/-- What follows the point of a decimal: digits and an optional exponent. -/
def fraction (t : Text) : Literal :=
  let (digits, rest) := splitWhile Char.isDigit t
  match exponent? rest with
  | some (exponent, rest) => ⟨.codeNumberDecimal, digits ++ exponent, rest⟩
  | none => ⟨.codeNumberDecimal, digits, rest⟩

/-- What follows an integer part: a point and a fraction, an exponent, or nothing. -/
def afterInteger : Text → Literal
  | [] => ⟨.codeNumberInteger, [], []⟩
  | c :: t => if c = '.' then (fraction t).cons [c] else integerOrExponent (c :: t)

/-- What follows a leading zero. -/
def afterZero? : Text → Option Literal
  | [] => some ⟨.codeNumberInteger, [], []⟩
  | c :: t =>
    if isOctalDigit c then
      let (digits, rest) := splitWhile isOctalDigit t
      some ⟨.codeNumberOctal, c :: digits, rest⟩
    else if c = 'x' ∨ c = 'X' then
      let (digits, rest) := splitWhile isHexDigit t
      if digits.isEmpty then none else some ⟨.codeNumberHexadecimal, c :: digits, rest⟩
    else if c = '8' ∨ c = '9' then none
    else some (afterInteger (c :: t))

/-- A number without a sign at the front of a text. -/
def unsignedNumber? : Text → Option Literal
  | [] => none
  | c :: t =>
    if c = '.' then
      let (digits, _) := splitWhile Char.isDigit t
      if digits.isEmpty then none else some ((fraction t).cons [c])
    else if c = '0' then (afterZero? t).map (·.cons [c])
    else if c.isDigit then
      let (digits, rest) := splitWhile Char.isDigit t
      some ((afterInteger rest).cons (c :: digits))
    else none

def number? (t : Text) : Option Literal :=
  let (sign, rest) := splitSign t
  (unsignedNumber? rest).map (·.cons sign)

variable {t : Text} {l : Literal}

@[simp] theorem Literal.cons_text (front : Text) : (l.cons front).text = front ++ l.text := rfl

@[simp] theorem Literal.cons_rest (front : Text) : (l.cons front).rest = l.rest := rfl

theorem splitSign_append (t : Text) : (splitSign t).1 ++ (splitSign t).2 = t := by
  fun_cases splitSign t <;> simp

theorem append_of_exponent? {exponent rest : Text} (h : exponent? t = some (exponent, rest)) :
    exponent ++ rest = t := by
  cases t with
  | nil => simp [exponent?] at h
  | cons e t =>
    simp only [exponent?] at h
    split at h
    · split at h
      · cases h
      · simp only [Option.some.injEq, Prod.mk.injEq] at h
        obtain ⟨rfl, rfl⟩ := h
        simp [splitWhile_append, splitSign_append]
    · cases h

theorem integerOrExponent_append (t : Text) :
    (integerOrExponent t).text ++ (integerOrExponent t).rest = t := by
  simp only [integerOrExponent]
  split
  · next h => exact append_of_exponent? h
  · rfl

theorem fraction_append (t : Text) : (fraction t).text ++ (fraction t).rest = t := by
  simp only [fraction]
  split
  · next h => simp [append_of_exponent? h, splitWhile_append]
  · simp [splitWhile_append]

theorem afterInteger_append (t : Text) : (afterInteger t).text ++ (afterInteger t).rest = t := by
  fun_cases afterInteger t with
  | case1 => rfl
  | case2 => simp [fraction_append]
  | case3 => simp [integerOrExponent_append]

theorem append_of_afterZero? (h : afterZero? t = some l) : l.text ++ l.rest = t := by
  cases t with
  | nil => cases h; rfl
  | cons c t =>
    simp only [afterZero?] at h
    split at h
    · cases h; simp [splitWhile_append]
    · split at h
      · split at h
        · cases h
        · cases h; simp [splitWhile_append]
      · split at h
        · cases h
        · cases h; exact afterInteger_append _

theorem append_of_unsignedNumber? (h : unsignedNumber? t = some l) : l.text ++ l.rest = t := by
  cases t with
  | nil => cases h
  | cons c t =>
    simp only [unsignedNumber?] at h
    split at h
    · split at h
      · cases h
      · cases h; simp [fraction_append]
    · split at h
      · obtain ⟨m, hm, rfl⟩ := Option.map_eq_some_iff.1 h
        simp [append_of_afterZero? hm]
      · split at h
        · cases h; simp [afterInteger_append, splitWhile_append]
        · cases h

theorem append_of_number? (h : number? t = some l) : l.text ++ l.rest = t := by
  obtain ⟨m, hm, rfl⟩ := Option.map_eq_some_iff.1 h
  rw [Literal.cons_text, Literal.cons_rest, List.append_assoc, append_of_unsignedNumber? hm]
  exact splitSign_append t

end ModalLexer.Text
