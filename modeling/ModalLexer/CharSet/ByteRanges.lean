import ModalLexer.CharSet

/-! # Ranges of characters as ranges of bytes

The UTF-8 forms of the characters of a range are cut into sequences of byte ranges. A sequence
stands for all forms that take each byte from its range.
-/

namespace ModalLexer.CharSet

/-- The UTF-8 form of the code point `n`. -/
def encode (n : Nat) : List Nat :=
  if n < 0x80 then [n]
  else if n < 0x800 then [0xc0 + n / 64, 0x80 + n % 64]
  else if n < 0x10000 then [0xe0 + n / 4096, 0x80 + n / 64 % 64, 0x80 + n % 64]
  else [0xf0 + n / 262144, 0x80 + n / 4096 % 64, 0x80 + n / 64 % 64, 0x80 + n % 64]

/-- Where a range is cut that is no single sequence: the end of its first part, and the start of the
second one. It is cut at the code points that no character has, where the number of bytes changes,
and so that all bytes but the first ones that differ take all their values. -/
def cut? (first last : Nat) : Option (Nat × Nat) :=
  if first < 0xe000 ∧ 0xd7ff < last then some (0xd7ff, 0xe000)
  else
    match [0x7f, 0x7ff, 0xffff].find? fun n => first ≤ n && n < last with
    | some n => some (n, n + 1)
    | none =>
      if last ≤ 0x7f then none
      else
        [64, 4096, 262144].findSome? fun m =>
          if first / m = last / m then none
          else if first % m ≠ 0 then some ((first / m + 1) * m - 1, (first / m + 1) * m)
          else if last % m ≠ m - 1 then some (last / m * m - 1, last / m * m)
          else none

/-- The sequences for a range that is cut at most `depth` times on end. -/
def sequencesUpTo : (depth : Nat) → Nat → Nat → List (List (Nat × Nat))
  | 0, _, _ => []
  | depth + 1, first, last =>
    if last < first then []
    else
      match cut? first last with
      | some (a, b) => sequencesUpTo depth first a ++ sequencesUpTo depth b last
      | none => [(encode first).zip (encode last)]

def sequences (first last : Nat) : List (List (Nat × Nat)) := sequencesUpTo 16 first last

def byteSequences (s : CharSet) : List (List (Nat × Nat)) :=
  s.ranges.flatMap fun r => sequences r.1 r.2

/-- Two bytes for the letters that take two, and no byte where no character is. -/
example : sequences 0xe0 0xff = [[(0xc3, 0xc3), (0xa0, 0xbf)]] := by decide

example : sequences 0xd800 0xdfff = [] := by decide

end ModalLexer.CharSet
