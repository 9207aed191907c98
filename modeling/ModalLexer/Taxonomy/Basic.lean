import ModalLexer.Taxonomy.Arena

/-! # The taxonomy of token types

A taxonomy is an arena of types that begins with the built-in ones. Outside the arena a type is not
known by its handle but by the path from its root, which is the same in every arena.
-/

namespace ModalLexer

open TokenType in
/-- The types every taxonomy begins with, by their handles. -/
def builtinTypes : List TokenType := [
  stop, stopError, stopEndOfString, stopLexer,
  text, textWhiteSpace, textNewLine, textInvalid, textPunctuation, textPunctuationSeparator,
  textPunctuationDelimiter, textOperator, textWord, textNumber, textOther,
  code, codeIdentifier, codeIdentifierVariable, codeIdentifierFunction, codeIdentifierMethod,
  codeIdentifierType, codeIdentifierClass, codeIdentifierNamespace, codeIdentifierKeyword,
  codeIdentifierLiteral, codeIdentifierOperator, codeString, codeStringSingle, codeStringDouble,
  codeStringRaw, codeStringUnicode, codeStringMultiline, codeNumber, codeNumberInteger,
  codeNumberHexadecimal, codeNumberOctal, codeNumberBinary, codeNumberDecimal, codeComment,
  codeOperator, codeOperatorAssignment, codeOperatorArithmetic, codeOperatorLogical,
  codeOperatorBinary, codePunctuation, codeDelimiter]

namespace TypeArena

/-- Adds a built-in type below its parent. -/
def pushBuiltin (a : TypeArena) (t : TokenType) : TypeArena :=
  a.push ((t.parent?.bind builtinTypes.idxOf?).bind a.handle?) t.name

def builtin : TypeArena := builtinTypes.foldl pushBuiltin empty

/-- The registered type with the given path. -/
def find? (a : TypeArena) (t : TokenType) : Option (Fin a.size) :=
  (a.byName t.name).bind a.handle?

end TypeArena

structure Taxonomy where
  arena : TypeArena

namespace Taxonomy

def builtin : Taxonomy := ⟨TypeArena.builtin⟩

def find? (tax : Taxonomy) (name : String) : Option TokenType :=
  (tax.arena.byName name).map tax.arena.typeAt

/-- Adds a type below `parent?`, or a class root if there is no such registered type. -/
def register (tax : Taxonomy) (parent? : Option TokenType) (name : String) :
    Except RegistrationError (TokenType × Taxonomy) :=
  match tax.arena.tryRegister (parent?.bind tax.arena.find?) name with
  | (.error e, _) => .error e
  | (.ok t, arena) => .ok (arena.typeAt t, ⟨arena⟩)

def all (tax : Taxonomy) : List TokenType := tax.arena.all.map tax.arena.typeAt

def classRoots (tax : Taxonomy) : List TokenType := tax.arena.classRoots.map tax.arena.typeAt

/-- The types right below `t`, by ascending name. -/
def children (tax : Taxonomy) (t : TokenType) : List TokenType :=
  match tax.arena.find? t with
  | none => []
  | some h => (tax.arena.children h).map tax.arena.typeAt

end Taxonomy

end ModalLexer
