import ModalLexer.Scanner.Basic

/-! # The types of scanned tokens

Every scanner has a fixed list of types for its tokens, and none of them is a stop.
-/

namespace ModalLexer

namespace TokenType

def numbers : List TokenType :=
  [codeNumberHexadecimal, codeNumberOctal, codeNumberInteger, codeNumberDecimal]

theorem not_stop_of_mem_numbers : ∀ kind ∈ numbers, ¬ kind.IsA stop := by decide

end TokenType

namespace Text

open TokenType

variable {t : Text} {l : Literal}

@[simp] theorem Literal.cons_kind (front : Text) : (l.cons front).kind = l.kind := rfl

theorem integerOrExponent_kind (t : Text) :
    (integerOrExponent t).kind = if (exponent? t).isSome then codeNumberDecimal
      else codeNumberInteger := by
  unfold integerOrExponent
  split
  · next h => rw [h]; rfl
  · next h => rw [h]; rfl

@[simp] theorem fraction_kind (t : Text) : (fraction t).kind = codeNumberDecimal := by
  simp only [fraction]
  split <;> rfl

theorem afterInteger_kind (t : Text) :
    (afterInteger t).kind ∈ [codeNumberInteger, codeNumberDecimal] := by
  fun_cases afterInteger t with
  | case1 => exact List.mem_cons_self
  | case2 => simp
  | case3 c t =>
    rw [integerOrExponent_kind]
    split <;> simp

theorem afterInteger_kind_mem (t : Text) : (afterInteger t).kind ∈ numbers := by
  have hnumbers : ∀ kind ∈ [codeNumberInteger, codeNumberDecimal], kind ∈ numbers := by decide
  exact hnumbers _ (afterInteger_kind t)

theorem kind_of_afterZero? (h : afterZero? t = some l) : l.kind ∈ numbers := by
  cases t with
  | nil => cases h; simp [numbers]
  | cons c t =>
    simp only [afterZero?] at h
    split at h
    · cases h; simp [numbers]
    · split at h
      · split at h
        · cases h
        · cases h; simp [numbers]
      · split at h
        · cases h
        · cases h; exact afterInteger_kind_mem (c :: t)

theorem kind_of_unsignedNumber? (h : unsignedNumber? t = some l) : l.kind ∈ numbers := by
  cases t with
  | nil => cases h
  | cons c t =>
    simp only [unsignedNumber?] at h
    split at h
    · split at h
      · cases h
      · cases h; simp [numbers]
    · split at h
      · obtain ⟨m, hm, rfl⟩ := Option.map_eq_some_iff.1 h
        rw [Literal.cons_kind]
        exact kind_of_afterZero? hm
      · split at h
        · cases h; exact afterInteger_kind_mem _
        · cases h

theorem kind_of_number? (h : number? t = some l) : l.kind ∈ numbers := by
  obtain ⟨m, hm, rfl⟩ := Option.map_eq_some_iff.1 h
  rw [Literal.cons_kind]
  exact kind_of_unsignedNumber? hm

end Text

namespace Scanner

/-- The types that the tokens of a scanner may have. -/
def kinds : Scanner → List TokenType
  | singleQuoted => [.codeStringSingle]
  | doubleQuoted => [.codeStringDouble]
  | backTick | tripleQuoted => [.codeStringMultiline]
  | oneCharComment | twoCharComment | slashStar => [.codeComment]
  | number => TokenType.numbers
  | whitespace => [.textWhiteSpace]
  | newlines => [.textNewLine]
  | identifier => [.codeIdentifier]

theorem kind_of_run {s : Scanner} {t rest : Text} {token : Token}
    (h : s.run t = some (token, rest)) : ∃ kind ∈ s.kinds, token.kind = some kind := by
  cases s with
  | number =>
    obtain ⟨l, hl, htoken⟩ := Option.bind_eq_some_iff.1 h
    cases htoken
    exact ⟨l.kind, Text.kind_of_number? hl, rfl⟩
  | singleQuoted | doubleQuoted | backTick | tripleQuoted | oneCharComment | twoCharComment
  | slashStar | whitespace | newlines | identifier =>
    cases h
    exact ⟨_, List.mem_singleton_self _, rfl⟩

theorem not_stop_of_mem_kinds (s : Scanner) : ∀ kind ∈ s.kinds, ¬ kind.IsA .stop := by
  cases s <;> decide

end Scanner

end ModalLexer
