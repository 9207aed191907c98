import ModalLexer.Grammar.Basic
import ModalLexer.Rule.Predefined

/-! # The C family

Braces, parentheses and brackets each open a mode that the matching closer ends, so a closer that
does not match lowers the score. Comments, keywords and preprocessor directives raise it.
-/

namespace ModalLexer.Language.C

variable {ε : Type}

def keywords : List String := [
  "auto", "bool", "break", "case", "char", "class", "const", "continue", "default", "delete", "do",
  "double", "else", "enum", "extern", "float", "for", "goto", "if", "inline", "int", "long",
  "namespace", "new", "private", "protected", "public", "register", "return", "short", "signed",
  "sizeof", "static", "struct", "switch", "template", "this", "typedef", "typename", "union",
  "unsigned", "using", "virtual", "void", "volatile", "while"]

def literals : List String := ["NULL", "false", "nullptr", "true"]

/-- A nested mode, with the patterns that begin and end it. -/
structure Nesting where
  mode : String
  opener : String
  closer : String

def nestings : List Nesting := [
  ⟨"block", "\\\x7b", "\\\x7d"⟩,
  ⟨"paren", "\\(", "\\)"⟩,
  ⟨"index", "\\[", "\\]"⟩]

/-- Whether an opening parenthesis comes next, behind spaces and tabs. -/
def beginsCall (t : Text) : Bool :=
  (t.dropWhile fun c => c = ' ' || c = '\t').head? = some '('

/-- The type of a word with the text behind it: a keyword, a literal, a function or a plain
identifier. -/
def wordKind (word rest : Text) : TokenType :=
  if String.ofList word ∈ keywords then .codeIdentifierKeyword
  else if String.ofList word ∈ literals then .codeIdentifierLiteral
  else if beginsCall rest then .codeIdentifierFunction
  else .codeIdentifier

/-- Takes a word. A keyword adds 1 to the score. -/
def identifier : Procedure ε :=
  .inspect fun s =>
    if s.text.head?.any Text.isIdentifierStart then
      let (word, rest) := s.text.run Text.isIdentifierPart
      let kind := wordKind word rest
      let take := .emit kind word.byteSize (.done true)
      if kind = .codeIdentifierKeyword then .addScore 1 take else take
    else .done false

/-- Whether a number without a sign comes next. -/
def beginsNumber : Text → Bool
  | '.' :: c :: _ => c.isDigit
  | c :: _ => c.isDigit
  | [] => false

def isNumberSuffix (c : Char) : Bool := c ∈ ['f', 'F', 'l', 'L', 'u', 'U']

/-- Takes a number without a sign, together with any letters of its suffix. -/
def number : Procedure ε :=
  .inspect fun s =>
    if beginsNumber s.text then
      match s.text.number? with
      | some literal =>
        let suffix := literal.rest.takeWhile isNumberSuffix
        .emit literal.kind (literal.text ++ suffix).byteSize (.done true)
      | none => .done false
    else .done false

/-- The rules of a mode. A nested mode has the pattern that ends it. -/
def body (closer? : Option String) : List (Rule ε) :=
  let closers := closer?.toList.map fun closer =>
    .pattern closer ((Action.emit [.codeDelimiter]).andThen .exit)
  let openers := nestings.map fun nesting =>
    .pattern nesting.opener ((Action.emit [.codeDelimiter]).andThen (.enter nesting.mode))
  closers ++ [
    .procedure (.scanIf Text.isBlank .whitespace),
    .newline,
    .slashSlashComment,
    .slashStarComment,
    .pattern "(#[ \\t]*include)([ \\t]*)(<[^>\\n]*>|\"[^\"\\n]*\")"
      ((Action.emit [.codeIdentifierKeyword, .textWhiteSpace, .codeString]).andThen (.score 2)),
    .pattern
      "#[ \\t]*(?:define|undef|ifdef|ifndef|if|elif|else|endif|pragma|error|warning|line)\\b"
      ((Action.emit [.codeIdentifierKeyword]).andThen (.score 2)),
    .procedure (.scanIf (· = '"') .doubleQuoted),
    .procedure (.scanIf (· = '\'') .singleQuoted),
    .procedure identifier,
    .procedure number] ++ openers ++ [
    .pattern "[)\\]\x7d]" ((Action.emit [.codeDelimiter]).andThen (.score (-1))),
    .operators,
    .punctuation,
    .pattern "(?s)." ((Action.emit [.textInvalid]).andThen (.score (-1)))]

def grammar : Grammar ε where
  name := "c"
  modes? := some (⟨"root", body none⟩ ::
    nestings.map fun nesting => ⟨nesting.mode, body (some nesting.closer)⟩)

end ModalLexer.Language.C
