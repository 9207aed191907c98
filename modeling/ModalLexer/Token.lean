import ModalLexer.Text.Quoted
import ModalLexer.TokenType

/-! # Tokens

A token is a piece of text with a type. The default token has neither.
-/

namespace ModalLexer

structure Token where
  kind : Option TokenType := none
  text : Text := []
deriving DecidableEq, Repr

instance : Inhabited Token := ⟨{}⟩

namespace Token

/-- Whether the token is of type `t` or of a type below it. -/
def isA (token : Token) (t : TokenType) : Bool :=
  match token.kind with
  | none => false
  | some kind => kind.IsA t

/-- As `isA`, where a token without a type is a kind of no type at all. -/
def isAKind (token : Token) (kind? : Option TokenType) : Bool :=
  match token.kind, kind? with
  | none, none => true
  | some kind, some t => kind.IsA t
  | _, _ => false

def isStop (token : Token) : Bool := token.isA .stop

def isNil (token : Token) : Bool := token.kind.isNone

def isEmpty (token : Token) : Bool := token.text.isEmpty

def kindName (token : Token) : String :=
  match token.kind with
  | none => ""
  | some kind => kind.name

/-- The token on one line: its type in brackets and its quoted text. -/
def display (token : Token) : String :=
  let kind := match token.kind with
    | none => "<nil>"
    | some kind => kind.name
  "[" ++ kind ++ "] " ++ String.ofList (Text.quote token.text)

def debug (token : Token) : String :=
  let kind := match token.kind with
    | none => "None"
    | some kind => "Some(" ++ kind.debug ++ ")"
  "Token \x7b kind: " ++ kind ++ ", text: " ++ String.ofList (Text.quote token.text) ++ " \x7d"

end Token

end ModalLexer
