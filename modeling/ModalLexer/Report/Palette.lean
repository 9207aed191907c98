import ModalLexer.Taxonomy.Basic

/-! # Colours of token types

A class of token types has the colour of its entry in the palette, and a type the colour of the
first entry that it is a kind of.
-/

namespace ModalLexer

inductive Color where
  | red
  | green
  | yellow
  | blue
  | magenta
  | cyan
  | brightBlack
  | brightWhite
deriving DecidableEq, Repr

namespace Color

/-- The number that selects the colour on a terminal. -/
def code : Color → Nat
  | red => 31
  | green => 32
  | yellow => 33
  | blue => 34
  | magenta => 35
  | cyan => 36
  | brightBlack => 90
  | brightWhite => 97

def reset : Text := ['\x1b', '[', '0', 'm']

def start (c : Color) : Text := ['\x1b', '['] ++ (toString c.code).toList ++ ['m']

/-- Begins the colour again behind every reset. -/
def resume (c : Color) : Text → Text
  | '\x1b' :: '[' :: '0' :: 'm' :: t => reset ++ c.start ++ resume c t
  | d :: t => d :: resume c t
  | [] => []

def paint (c : Color) (line : String) : String :=
  String.ofList (c.start ++ c.resume line.toList ++ reset)

end Color

/-- The coloured classes. A class stands before those it is a kind of. -/
def palette : List (TokenType × Color) := [
  (.stopError, .red),
  (.stop, .brightBlack),
  (.textInvalid, .red),
  (.codeComment, .green),
  (.codeString, .yellow),
  (.codeNumber, .cyan),
  (.codeIdentifierKeyword, .magenta),
  (.codeIdentifierLiteral, .magenta),
  (.codeIdentifierFunction, .blue),
  (.codeIdentifierNamespace, .blue),
  (.codeOperator, .brightWhite)]

/-- The colour of the first class in the palette that the type is a kind of. -/
def TokenType.color? (t : TokenType) : Option Color :=
  (palette.find? fun entry => t.IsA entry.1).map (·.2)

/-- The colour of the registered type with the given name. -/
def Taxonomy.color? (tax : Taxonomy) (name : String) : Option Color :=
  (tax.find? name).bind (·.color?)

end ModalLexer
