import ModalLexer.Text.Basic

/-! # Hexadecimal digits

Digits are read in either case and written in lower case.
-/

namespace ModalLexer.Text

def hexValue? (c : Char) : Option Nat :=
  if c.isDigit then some (c.toNat - '0'.toNat)
  else if 'a' ≤ c ∧ c ≤ 'f' then some (c.toNat - 'a'.toNat + 10)
  else if 'A' ≤ c ∧ c ≤ 'F' then some (c.toNat - 'A'.toNat + 10)
  else none

/-- The hexadecimal digits of `n`, without leading zeros. -/
def hexDigits (n : Nat) : Text := Nat.toDigits 16 n

theorem hexValue?_digitChar {n : Nat} (h : n < 16) : hexValue? (Nat.digitChar n) = some n := by
  have : ∀ m : Fin 16, hexValue? (Nat.digitChar m) = some m.val := by decide
  exact this ⟨n, h⟩

end ModalLexer.Text
