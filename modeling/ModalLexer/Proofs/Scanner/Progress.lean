import ModalLexer.Scanner.Basic

/-! # Scanners take characters

What a scanner takes off a text that is not empty is not empty either.
-/

namespace ModalLexer

variable {t : Text} {l : Text.Literal}

namespace Text

theorem text_ne_nil_of_unsignedNumber? (h : unsignedNumber? t = some l) : l.text ≠ [] := by
  cases t with
  | nil => cases h
  | cons c t =>
    simp only [unsignedNumber?] at h
    split at h
    · split at h
      · cases h
      · cases h; simp
    · split at h
      · obtain ⟨m, -, rfl⟩ := Option.map_eq_some_iff.1 h
        simp
      · split at h
        · cases h; simp
        · cases h

theorem text_ne_nil_of_number? (h : number? t = some l) : l.text ≠ [] := by
  obtain ⟨m, hm, rfl⟩ := Option.map_eq_some_iff.1 h
  simp [text_ne_nil_of_unsignedNumber? hm]

end Text

/-- Every scanner but the number scanner takes a character, if there is one. -/
theorem Scanner.exists_run {scanner : Scanner} (h : scanner ≠ .number) (hne : t ≠ []) :
    ∃ token rest, scanner.run t = some (token, rest) ∧ token.text ≠ [] := by
  obtain ⟨c, t, rfl⟩ := List.exists_cons_of_ne_nil hne
  cases scanner with
  | number => exact absurd rfl h
  | singleQuoted | doubleQuoted | backTick | tripleQuoted | oneCharComment | twoCharComment
  | slashStar | whitespace | newlines | identifier =>
    refine ⟨_, _, rfl, ?_⟩
    simp [Text.quotedString, Text.backTickString, Text.tripleQuotedString, Text.lineComment,
      Text.starComment, Text.run, Text.splitBehindFirst, Text.splitBehindOpener,
      Text.splitCovering]

end ModalLexer
