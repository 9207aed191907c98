/-! # Token types

A token type is a class root or a child of another type. Types are compared as a whole, so a type
carries the path from its root, and `IsA` asks whether another type lies on that path.
-/

namespace ModalLexer

inductive TokenType where
  | root (name : String)
  | child (parent : TokenType) (name : String)
deriving DecidableEq, Repr

namespace TokenType

def name : TokenType → String
  | root name => name
  | child _ name => name

def parent? : TokenType → Option TokenType
  | root _ => none
  | child parent _ => some parent

/-- The type itself and all its ancestors, the nearest first. -/
def lineage : TokenType → List TokenType
  | root name => [root name]
  | child parent name => child parent name :: lineage parent

def depth : TokenType → Nat
  | root _ => 0
  | child parent _ => parent.depth + 1

/-- A type is a kind of another if it is that type or descends from it. -/
def IsA (a b : TokenType) : Prop := b ∈ a.lineage

instance (a b : TokenType) : Decidable (a.IsA b) :=
  inferInstanceAs (Decidable (b ∈ a.lineage))

/-- The class of a type: the root above it. -/
def classRoot : TokenType → TokenType
  | root name => root name
  | child parent _ => parent.classRoot

def debug (t : TokenType) : String := "TokenType(" ++ t.name ++ ")"

def stop : TokenType := root "Stop"
def stopError : TokenType := child stop "Stop.Error"
def stopEndOfString : TokenType := child stop "Stop.EndOfString"
def stopLexer : TokenType := child stop "Stop.Lexer"

def text : TokenType := root "Text"
def textWhiteSpace : TokenType := child text "Text.WhiteSpace"
def textNewLine : TokenType := child text "Text.NewLine"
def textInvalid : TokenType := child text "Text.Invalid"
def textPunctuation : TokenType := child text "Text.Punctuation"
def textPunctuationSeparator : TokenType := child textPunctuation "Text.Punctuation.Separator"
def textPunctuationDelimiter : TokenType := child textPunctuation "Text.Punctuation.Delimiter"
def textOperator : TokenType := child text "Text.Operator"
def textWord : TokenType := child text "Text.Word"
def textNumber : TokenType := child text "Text.Number"
def textOther : TokenType := child text "Text.Other"

def code : TokenType := root "Code"
def codeIdentifier : TokenType := child code "Code.Identifier"
def codeIdentifierVariable : TokenType := child codeIdentifier "Code.Identifier.Variable"
def codeIdentifierFunction : TokenType := child codeIdentifier "Code.Identifier.Function"
def codeIdentifierMethod : TokenType := child codeIdentifier "Code.Identifier.Method"
def codeIdentifierType : TokenType := child codeIdentifier "Code.Identifier.Type"
def codeIdentifierClass : TokenType := child codeIdentifier "Code.Identifier.Class"
def codeIdentifierNamespace : TokenType := child codeIdentifier "Code.Identifier.Namespace"
def codeIdentifierKeyword : TokenType := child codeIdentifier "Code.Identifier.Keyword"
def codeIdentifierLiteral : TokenType := child codeIdentifier "Code.Identifier.Literal"
def codeIdentifierOperator : TokenType := child codeIdentifier "Code.Identifier.Operator"
def codeString : TokenType := child code "Code.String"
def codeStringSingle : TokenType := child codeString "Code.String.Single"
def codeStringDouble : TokenType := child codeString "Code.String.Double"
def codeStringRaw : TokenType := child codeString "Code.String.Raw"
def codeStringUnicode : TokenType := child codeString "Code.String.Unicode"
def codeStringMultiline : TokenType := child codeString "Code.String.Multiline"
def codeNumber : TokenType := child code "Code.Number"
def codeNumberInteger : TokenType := child codeNumber "Code.Number.Integer"
def codeNumberHexadecimal : TokenType := child codeNumber "Code.Number.Hexadecimal"
def codeNumberOctal : TokenType := child codeNumber "Code.Number.Octal"
def codeNumberBinary : TokenType := child codeNumber "Code.Number.Binary"
def codeNumberDecimal : TokenType := child codeNumber "Code.Number.Decimal"
def codeComment : TokenType := child code "Code.Comment"
def codeOperator : TokenType := child code "Code.Operator"
def codeOperatorAssignment : TokenType := child codeOperator "Code.Operator.Assignment"
def codeOperatorArithmetic : TokenType := child codeOperator "Code.Operator.Arithmetic"
def codeOperatorLogical : TokenType := child codeOperator "Code.Operator.Logical"
def codeOperatorBinary : TokenType := child codeOperator "Code.Operator.Binary"
def codePunctuation : TokenType := child code "Code.Punctuation"
def codeDelimiter : TokenType := child code "Code.Delimiter"

end TokenType

end ModalLexer
