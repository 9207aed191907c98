import ModalLexer.Scanner.Delimited
import ModalLexer.Scanner.Number
import ModalLexer.Token

/-! # Scanners

A scanner takes a token of a common shape off the front of a text. All but the number scanner take
their token without looking at its first character; the number scanner may find nothing.
-/

namespace ModalLexer

inductive Scanner where
  | singleQuoted
  | doubleQuoted
  | backTick
  | tripleQuoted
  | oneCharComment
  | twoCharComment
  | slashStar
  | number
  | whitespace
  | newlines
  | identifier
deriving DecidableEq, Repr

namespace Scanner

/-- A token of the given type from the two parts of a split text. -/
def token (kind : TokenType) (parts : Text × Text) : Option (Token × Text) :=
  some (⟨some kind, parts.1⟩, parts.2)

/-- The token at the front of a text and the text behind it. -/
def run : Scanner → Text → Option (Token × Text)
  | singleQuoted, t => token .codeStringSingle (t.quotedString '\'')
  | doubleQuoted, t => token .codeStringDouble (t.quotedString '"')
  | backTick, t => token .codeStringMultiline t.backTickString
  | tripleQuoted, t => token .codeStringMultiline t.tripleQuotedString
  | oneCharComment, t => token .codeComment (t.lineComment 1)
  | twoCharComment, t => token .codeComment (t.lineComment 2)
  | slashStar, t => token .codeComment t.starComment
  | number, t => t.number?.bind fun l => token l.kind (l.text, l.rest)
  | whitespace, t => token .textWhiteSpace (t.run Text.isBlank)
  | newlines, t => token .textNewLine (t.run Text.isLineBreak)
  | identifier, t => token .codeIdentifier (t.run Text.isIdentifierPart)

theorem append_of_run {s : Scanner} {t rest : Text} {tok : Token} (h : s.run t = some (tok, rest)) :
    tok.text ++ rest = t := by
  cases s with
  | number =>
    obtain ⟨l, hl, htok⟩ := Option.bind_eq_some_iff.1 h
    cases htok
    exact Text.append_of_number? hl
  | singleQuoted | doubleQuoted => cases h; exact Text.quotedString_append _ _
  | backTick => cases h; exact Text.backTickString_append _
  | tripleQuoted => cases h; exact Text.tripleQuotedString_append _
  | oneCharComment | twoCharComment => cases h; exact Text.lineComment_append _ _
  | slashStar => cases h; exact Text.starComment_append _
  | whitespace | newlines | identifier => cases h; exact Text.run_append _ _

end Scanner

end ModalLexer
