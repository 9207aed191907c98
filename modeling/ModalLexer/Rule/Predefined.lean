import ModalLexer.Rule.Basic

/-! # Predefined rules

Rules for tokens that many grammars share.
-/

namespace ModalLexer.Rule

variable {ε : Type}

def single (source : String) (kind : TokenType) : Rule ε := pattern source (.emit [kind])

/-- Spaces, tabs, form and vertical feeds. -/
def whitespace : Rule ε := single "[ \\t\\f\\v]+" .textWhiteSpace

def newline : Rule ε := single "[\\n\\r]+" .textNewLine

def asciiIdentifier : Rule ε := single "[a-zA-Z_][a-zA-Z0-9_]*" .codeIdentifier

/-- The equals sign and the compound assignments. -/
def assignment : Rule ε :=
  single "\\+=|-=|\\*=|/=|%=|\\|=|&=|\\^=|=" .codeOperatorAssignment

def arithmetic : Rule ε := single "[+\\-*/%]" .codeOperatorArithmetic

def logical : Rule ε := single "&&|\\|\\||!" .codeOperatorLogical

def binary : Rule ε := single "[|&^~]" .codeOperatorBinary

def operators : Rule ε :=
  single
    "<<=|>>=|\\+\\+|--|->|<<|>>|<=|>=|==|!=|&&|\\|\\||[-+*/%]=|[|&^]=|[<>!=+\\-*/%|&^~?:]"
    .codeOperator

def punctuation : Rule ε := single "[.,;]" .codePunctuation

def delimiter : Rule ε := single "[\x7b\x7d\\[\\]()]" .codeDelimiter

/-- A comment up to the end of the line, which adds 1 to the score. -/
def slashSlashComment : Rule ε :=
  pattern "//[^\\n]*" ((Action.emit [.codeComment]).andThen (.score 1))

/-- A comment between slash-star and star-slash, which adds 1 to the score. -/
def slashStarComment : Rule ε :=
  pattern "(?s)/\\*.*?\\*/" ((Action.emit [.codeComment]).andThen (.score 1))

def hexadecimal : Rule ε := single "0[xX][0-9a-fA-F]+" .codeNumberHexadecimal

def octal : Rule ε := single "0[0-7]+" .codeNumberOctal

/-- An integer with an optional sign and suffix. -/
def integer : Rule ε := single "[-+]?(?:0|[1-9][0-9]*)[lL]?" .codeNumberInteger

/-- A number with a fraction or an exponent, and with an optional sign and suffix. -/
def decimal : Rule ε :=
  single
    ("[+-]?(?:[1-9][0-9]*[eE][+-]?[0-9]+|(?:0|[1-9][0-9]*)\\.[0-9]*(?:[eE][+-]?[0-9]+)?"
      ++ "|\\.[0-9]+(?:[eE][+-]?[0-9]+)?)[fFlL]?")
    .codeNumberDecimal

/-- Any number that the number scanner finds. -/
def number : Rule ε := procedure (.ofScanner .number)

end ModalLexer.Rule
