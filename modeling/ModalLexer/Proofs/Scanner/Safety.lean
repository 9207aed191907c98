import ModalLexer.Proofs.Scanner.NumberOffsets
import ModalLexer.Proofs.Scanner.Progress

/-! # What a scan by offsets takes

No scan is abandoned. It takes the token that the scanner takes off the text, and the token of a
string or a comment ends at the earliest offset that closes it.
-/

namespace ModalLexer.Scanner

open Bytes (Closes EndsQuoted tripleQuote)

variable {s : Scanner} {t rest : Text} {token : Token}

/-- The end that is found is the size of the token. -/
theorem find_of_run (h : s.run t = some (token, rest)) :
    ∃ kind, token.kind = some kind ∧ s.find t = .ok (some (kind, token.text.byteSize)) := by
  cases s with
  | singleQuoted | doubleQuoted =>
    cases h
    exact ⟨_, rfl, by rw [find, Bytes.quotedEnd_bytes (by decide) (by decide)]; rfl⟩
  | backTick => cases h; exact ⟨_, rfl, by rw [find, Bytes.backTickEnd_bytes]; rfl⟩
  | tripleQuoted => cases h; exact ⟨_, rfl, by rw [find, Bytes.tripleQuoteEnd_bytes]; rfl⟩
  | oneCharComment | twoCharComment =>
    cases h
    exact ⟨_, rfl, by rw [find, Bytes.lineEnd_bytes]; rfl⟩
  | slashStar => cases h; exact ⟨_, rfl, by rw [find, Bytes.starSlashEnd_bytes]; rfl⟩
  | number =>
    obtain ⟨l, hl, htoken⟩ := Option.bind_eq_some_iff.1 h
    cases htoken
    refine ⟨_, rfl, ?_⟩
    rw [find, Bytes.number?_bytes, hl, Option.map_some, Bytes.endFrom, Nat.zero_add]
  | whitespace =>
    cases h
    exact ⟨_, rfl, by rw [find, Bytes.runEnd_bytes Text.agree_isBlank]; rfl⟩
  | newlines =>
    cases h
    exact ⟨_, rfl, by rw [find, Bytes.runEnd_bytes Text.agree_isLineBreak]; rfl⟩
  | identifier =>
    cases h
    exact ⟨_, rfl, by rw [find, Bytes.runEnd_bytes Text.agree_isIdentifierPart]; rfl⟩

theorem pop_of_run (h : s.run t = some (token, rest)) : s.pop t = .ok (some token, rest) := by
  obtain ⟨kind, hkind, hfind⟩ := find_of_run h
  have ht := append_of_run h
  obtain ⟨_, text⟩ := token
  cases hkind
  have hsize : min text.byteSize t.byteSize = text.byteSize := by
    rw [← ht, Text.byteSize_append]
    exact Nat.min_eq_left (Nat.le_add_right _ _)
  have hcut : t.splitBytes? text.byteSize = some (text, rest) := by
    rw [← ht, Text.splitBytes?_byteSize]
  rw [pop, hfind]
  simp only [bind, Except.bind, hsize, hcut]
  rfl

theorem pop_of_run_eq_none (h : s.run t = none) : s = .number ∧ s.pop t = .ok (none, t) := by
  cases s with
  | number =>
    refine ⟨rfl, ?_⟩
    have hnumber : t.number? = none := by
      cases hl : t.number? with
      | none => rfl
      | some l => simp [run, hl, Scanner.token] at h
    rw [pop, find, Bytes.number?_bytes, hnumber]
    rfl
  | singleQuoted | doubleQuoted | backTick | tripleQuoted | oneCharComment | twoCharComment
  | slashStar | whitespace | newlines | identifier => cases h

/-- Every scan takes a token off the front of the text, or finds no number and leaves the text as it
is. The token is empty only if the text is. -/
theorem scan_is_safe (s : Scanner) (t : Text) :
    (∃ token rest, s.pop t = .ok (some token, rest) ∧ s.run t = some (token, rest) ∧
      token.text ++ rest = t ∧ (token.text ≠ [] ∨ s ≠ .number ∧ t = [])) ∨
    s = .number ∧ s.pop t = .ok (none, t) ∧ s.run t = none := by
  cases hrun : s.run t with
  | none =>
    obtain ⟨hs, hpop⟩ := pop_of_run_eq_none hrun
    exact .inr ⟨hs, hpop, rfl⟩
  | some parts =>
    obtain ⟨token, rest⟩ := parts
    refine .inl ⟨token, rest, pop_of_run hrun, rfl, append_of_run hrun, ?_⟩
    by_cases hs : s = .number
    · subst hs
      obtain ⟨l, hl, htoken⟩ := Option.bind_eq_some_iff.1 hrun
      cases htoken
      exact .inl (Text.text_ne_nil_of_number? hl)
    · by_cases ht : t = []
      · exact .inr ⟨hs, ht⟩
      · obtain ⟨token', rest', hrun', hne⟩ := exists_run hs ht
        cases hrun.symm.trans hrun'
        exact .inl hne

/-- The scan takes the first `n` bytes of the text. -/
def Takes (s : Scanner) (t : Text) (n : Nat) : Prop :=
  ∃ token rest, s.pop t = .ok (some token, rest) ∧ s.run t = some (token, rest) ∧
    token.text.bytes = t.bytes.take n ∧ rest.bytes = t.bytes.drop n

theorem takes_of_run {n : Nat} (h : s.run t = some (token, rest))
    (hn : token.text.byteSize = n) : s.Takes t n := by
  subst hn
  have ht := append_of_run h
  refine ⟨token, rest, pop_of_run h, h, ?_, ?_⟩
  · rw [← ht, Text.bytes_append, ← Text.length_bytes, List.take_left]
  · rw [← ht, Text.bytes_append, ← Text.length_bytes, List.drop_left]

theorem takes_quotedString {quote : Char} (hquote : Text.IsAscii quote) (hline : quote ≠ '\n')
    (h : s.run t = some (token, rest)) (htoken : token.text = (t.quotedString quote).1) :
    ∃ n, FirstAt (EndsQuoted quote t.bytes) t.byteSize n ∧
      s.Takes t (if t.bytes[n]? = some quote.toUInt8 then n + 1 else n) := by
  obtain ⟨n, hn, hsize⟩ := Text.firstAt_quotedString hquote hline t
  exact ⟨n, hn, takes_of_run h (by rw [htoken, hsize])⟩

/-- Strings and comments go to the earliest offset that closes them, and to the end of the text if
there is none. The quote that closes a string belongs to it, and the line feed does not. -/
theorem strings_and_comments_end_earliest (t : Text) :
    (∃ n, FirstAt (Closes 6 tripleQuote t.bytes) t.byteSize n ∧ tripleQuoted.Takes t n) ∧
    (∃ n, FirstAt (Closes 2 ['\x60'.toUInt8] t.bytes) t.byteSize n ∧ backTick.Takes t n) ∧
    (∃ n, FirstAt (Closes 4 ['*'.toUInt8, '/'.toUInt8] t.bytes) t.byteSize n ∧
      slashStar.Takes t n) ∧
    (∃ n, FirstAt (fun i => 1 ≤ i ∧ t.bytes[i]? = some '\n'.toUInt8) t.byteSize n ∧
      oneCharComment.Takes t n) ∧
    (∃ n, FirstAt (fun i => 2 ≤ i ∧ t.bytes[i]? = some '\n'.toUInt8) t.byteSize n ∧
      twoCharComment.Takes t n) ∧
    (∃ n, FirstAt (EndsQuoted '\'' t.bytes) t.byteSize n ∧
      singleQuoted.Takes t (if t.bytes[n]? = some '\''.toUInt8 then n + 1 else n)) ∧
    ∃ n, FirstAt (EndsQuoted '"' t.bytes) t.byteSize n ∧
      doubleQuoted.Takes t (if t.bytes[n]? = some '"'.toUInt8 then n + 1 else n) := by
  refine ⟨⟨_, Text.firstAt_tripleQuotedString t, takes_of_run rfl rfl⟩,
    ⟨_, Text.firstAt_backTickString t, takes_of_run rfl rfl⟩,
    ⟨_, Text.firstAt_starComment t, takes_of_run rfl rfl⟩,
    ⟨_, Text.firstAt_lineComment 1 t, takes_of_run rfl rfl⟩,
    ⟨_, Text.firstAt_lineComment 2 t, takes_of_run rfl rfl⟩, ?_, ?_⟩
  · exact takes_quotedString (by decide) (by decide) rfl rfl
  · exact takes_quotedString (by decide) (by decide) rfl rfl

/-- The star of the opener does not close the comment. -/
example : (slashStar.pop "/*/é*/*/".toList).toOption =
    some (some ⟨some .codeComment, "/*/é*/".toList⟩, "*/".toList) := by
  decide +kernel

end ModalLexer.Scanner
