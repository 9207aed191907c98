import ModalLexer.Text.Hexadecimal
import ModalLexer.Unicode.Extender
import ModalLexer.Unicode.Printable

/-! # Quoted texts

A text is quoted on one line: between double quotes, with the quote, the backslash and the common
controls behind a backslash, and every extender or unprintable character by its code point.
-/

namespace ModalLexer.Text

/-- How a character is written between the quotes. -/
def escapeChar (c : Char) : Text :=
  if c = '\x00' then ['\\', '0']
  else if c = '\t' then ['\\', 't']
  else if c = '\r' then ['\\', 'r']
  else if c = '\n' then ['\\', 'n']
  else if c = '"' ∨ c = '\\' then ['\\', c]
  else if Unicode.isExtender c || !Unicode.isPrintable c then
    ['\\', 'u', '\x7b'] ++ hexDigits c.toNat ++ ['\x7d']
  else [c]

/-- The text between double quotes, with every character escaped where it has to be. -/
def quote (t : Text) : Text := '"' :: t.flatMap escapeChar ++ ['"']

end ModalLexer.Text

namespace ModalLexer

def quoteString (s : String) : String := String.ofList (Text.quote s.toList)

end ModalLexer
