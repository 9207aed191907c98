import ModalLexer.Unicode.Alphabetic

/-! # Word characters

A word character is alphabetic, a mark, a decimal digit, connector punctuation or a join control.
-/

namespace ModalLexer.Unicode

/-- The characters that join or separate the letters of a word. -/
def joinControls : CharSet := .range '\u200c' '\u200d'

/-- The categories of which all characters belong to words, beside the alphabetic ones. -/
def wordCategories : List Category := markCategories ++ [.nd, .pc]

def isWord (c : Char) : Bool :=
  isAlphabetic c || hasCategory wordCategories c || joinControls.contains c

def wordChars : CharSet := (alphabeticChars.union (charsOf wordCategories)).union joinControls

end ModalLexer.Unicode
