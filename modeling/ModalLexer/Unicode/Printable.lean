import ModalLexer.Unicode.Category

/-! # Printable characters

A character is printable unless it is a control, a format character, a separator other than the
space, a private use character or unassigned.
-/

namespace ModalLexer.Unicode

def isPrintable (c : Char) : Bool :=
  match category? c with
  | none | some .cc | some .cf | some .co | some .zl | some .zp => false
  | some .zs => c = ' '
  | some _ => true

end ModalLexer.Unicode
