import ModalLexer.Text.Hexadecimal

/-! # TOML strings, keys and numbers

Readers of the parts of a document that have no parts of their own. A reader takes what it reads off
the front of a text, and fails if that is malformed.
-/

namespace ModalLexer.Toml

def isBlank (c : Char) : Bool := c = ' ' || c = '\t'

/-- Whether a character may stand in comments and strings: anything but a control other than the
tab. -/
def isPlain (c : Char) : Bool := c = '\t' || (' ' ≤ c && c ≠ '\x7f')

def skipBlanks (t : Text) : Text := t.dropWhile isBlank

def lineBreak? : Text → Option Text
  | '\n' :: t => some t
  | '\r' :: '\n' :: t => some t
  | _ => none

/-- Takes what may end a line: blanks and a comment. What is left begins with the line break. -/
def skipComment? (t : Text) : Option Text :=
  match skipBlanks t with
  | '#' :: t =>
    let t := t.dropWhile isPlain
    if t.isEmpty || (lineBreak? t).isSome then some t else none
  | t => some t

/-- Takes blanks, a comment and a line break, or the end of the text. -/
def endOfLine? (t : Text) : Option Text := do
  let t ← skipComment? t
  if t.isEmpty then some [] else lineBreak? t

/-- Takes `count` hexadecimal digits, behind some with the given value. -/
def hexDigits? (value : Nat) : (count : Nat) → Text → Option (Nat × Text)
  | 0, t => some (value, t)
  | count + 1, c :: t => do hexDigits? (16 * value + (← Text.hexValue? c)) count t
  | _ + 1, [] => none

/-- Takes the code point of a character. -/
def codePoint? (digits : Nat) (t : Text) : Option (Char × Text) := do
  let (n, rest) ← hexDigits? 0 digits t
  if n.isValidChar then some (Char.ofNat n, rest) else none

/-- Takes what follows the backslash of an escape. -/
def escape? : Text → Option (Char × Text)
  | 'b' :: t => some ('\x08', t)
  | 't' :: t => some ('\t', t)
  | 'n' :: t => some ('\n', t)
  | 'f' :: t => some ('\x0c', t)
  | 'r' :: t => some ('\r', t)
  | '"' :: t => some ('"', t)
  | '\\' :: t => some ('\\', t)
  | 'u' :: t => codePoint? 4 t
  | 'U' :: t => codePoint? 8 t
  | _ => none

/-- Takes a string on one line with its closing quote, where `left` characters are left at most. -/
def basic? : (left : Nat) → Text → Option (Text × Text)
  | 0, _ => none
  | _ + 1, [] => none
  | left + 1, c :: t =>
    if c = '"' then some ([], t)
    else if c = '\\' then do
      let (d, t) ← escape? t
      let (body, rest) ← basic? left t
      return (d :: body, rest)
    else if isPlain c then do
      let (body, rest) ← basic? left t
      return (c :: body, rest)
    else none

/-- Takes a string without escapes on one line, with its closing quote. -/
def literal? : Text → Option (Text × Text)
  | [] => none
  | c :: t =>
    if c = '\'' then some ([], t)
    else if isPlain c then do
      let (body, rest) ← literal? t
      return (c :: body, rest)
    else none

/-- The quotes that close a string on many lines and those in front of them, which belong to it.
Fewer than three quotes in a row do not close it. -/
def closing? (quote : Char) (t : Text) : Option (Text × Text) :=
  let count := min 5 (t.takeWhile (· = quote)).length
  if 3 ≤ count then some (List.replicate (count - 3) quote, t.drop count) else none

def skipWhite : Text → Text
  | '\r' :: '\n' :: t => skipWhite t
  | c :: t => if isBlank c || c = '\n' then skipWhite t else c :: t
  | [] => []

/-- Takes the line break that a backslash hides, with all blanks and line breaks behind it. -/
def hiddenBreak? (t : Text) : Option Text := (lineBreak? (skipBlanks t)).map skipWhite

/-- Takes one character inside a string on many lines: a plain one or part of a line break. -/
def longChar? : Text → Option (Text × Text)
  | '\r' :: '\n' :: t => some (['\r', '\n'], t)
  | c :: t => if isPlain c || c = '\n' then some ([c], t) else none
  | [] => none

/-- Takes a string on many lines with its closing quotes. -/
def longBasic? : (left : Nat) → Text → Option (Text × Text)
  | 0, _ => none
  | left + 1, t =>
    match closing? '"' t with
    | some found => some found
    | none =>
      match t with
      | '\\' :: t =>
        match hiddenBreak? t with
        | some t => longBasic? left t
        | none => do
          let (d, t) ← escape? t
          let (body, rest) ← longBasic? left t
          return (d :: body, rest)
      | t => do
        let (front, t) ← longChar? t
        let (body, rest) ← longBasic? left t
        return (front ++ body, rest)

/-- Takes a string without escapes on many lines, with its closing quotes. -/
def longLiteral? : (left : Nat) → Text → Option (Text × Text)
  | 0, _ => none
  | left + 1, t =>
    match closing? '\'' t with
    | some found => some found
    | none => do
      let (front, t) ← longChar? t
      let (body, rest) ← longLiteral? left t
      return (front ++ body, rest)

/-- Takes the line break right behind opening quotes, which does not belong to the string. -/
def skipFirstBreak (t : Text) : Text := (lineBreak? t).getD t

def string? : Text → Option (Text × Text)
  | '"' :: '"' :: '"' :: t => longBasic? (t.length + 1) (skipFirstBreak t)
  | '\'' :: '\'' :: '\'' :: t => longLiteral? (t.length + 1) (skipFirstBreak t)
  | '"' :: t => basic? (t.length + 1) t
  | '\'' :: t => literal? t
  | _ => none

def isKeyChar (c : Char) : Bool := c.isAlphanum || c = '_' || c = '-'

/-- Takes a key: a quoted one, or letters, digits, underscores and dashes. -/
def simpleKey? : Text → Option (Text × Text)
  | '"' :: t => basic? (t.length + 1) t
  | '\'' :: t => literal? t
  | t =>
    let (key, rest) := Text.splitWhile isKeyChar t
    if key.isEmpty then none else some (key, rest)

/-- Takes a key of `count` parts at most, separated by dots. -/
def key? : (count : Nat) → Text → Option (List Text × Text)
  | 0, _ => none
  | count + 1, t => do
    let (first, rest) ← simpleKey? t
    match skipBlanks rest with
    | '.' :: t => do
      let (others, rest) ← key? count (skipBlanks t)
      return (first :: others, rest)
    | rest => return ([first], rest)

/-- Takes digits, with single underscores between them. -/
def digits? (isDigit : Char → Bool) : Text → Option Text
  | [] => none
  | c :: t =>
    if isDigit c then
      match t with
      | '_' :: t => digits? isDigit t
      | t => some ((digits? isDigit t).getD t)
    else none

def skipSign : Text → Text
  | '+' :: t => t
  | '-' :: t => t
  | t => t

/-- Whether the text is an exponent, or nothing. -/
def isExponent : Text → Bool
  | [] => true
  | c :: t => (c = 'e' || c = 'E') && digits? Char.isDigit (skipSign t) = some []

/-- Whether the text is a fraction and an exponent, an exponent, or nothing. -/
def isFraction : Text → Bool
  | '.' :: t => (digits? Char.isDigit t).any isExponent
  | t => isExponent t

/-- Whether the text is a decimal number without a sign. A leading zero stands alone. -/
def isDecimal : Text → Bool
  | '0' :: t => isFraction t
  | t => (digits? Char.isDigit t).any isFraction

def isNumber (t : Text) : Bool :=
  match t with
  | '0' :: 'x' :: t => digits? (fun c => (Text.hexValue? c).isSome) t = some []
  | '0' :: 'o' :: t => digits? (fun c => '0' ≤ c && c ≤ '7') t = some []
  | '0' :: 'b' :: t => digits? (fun c => c = '0' || c = '1') t = some []
  | t =>
    let t := skipSign t
    t = "inf".toList || t = "nan".toList || isDecimal t

end ModalLexer.Toml
