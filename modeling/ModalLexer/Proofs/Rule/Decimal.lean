import ModalLexer.Proofs.Rule.Predefined

/-! # The decimal rule and the number scanner

The decimal rule reads a decimal where the number scanner reads one, and one more character if a
suffix follows. It misses the decimals that are a zero with an exponent: where there is no point, it
asks for a mantissa that does not begin with a zero.
-/

namespace ModalLexer.Rule

open Pattern (Matcher)
open Pattern.Matcher

variable {ε : Type} {k : Text → Option Text} {c : Char} {t : Text}

def signs : CharSet := .ofChars ['+', '-']

def nonzero : CharSet := .range '1' '9'

def suffixes : CharSet := .ofChars ['f', 'F', 'l', 'L']

/-- `e`, an optional sign and digits. -/
def exponent : Matcher :=
  .cat (.set (.ofChars ['e', 'E']))
    (.cat (.opt (.set signs) false) (.plus (.set .digits) false))

/-- An integer without leading zeros and an exponent. -/
def scaled : Matcher := .cat (.set nonzero) (.cat (.star (.set .digits) false) exponent)

/-- An integer without leading zeros. -/
def mantissa : Matcher :=
  .alt (.set (.single '0')) (.cat (.set nonzero) (.star (.set .digits) false))

/-- A point and what may follow it behind an integer. -/
def point : Matcher :=
  .cat (.set (.single '.')) (.cat (.star (.set .digits) false) (.opt exponent false))

def pointed : Matcher := .cat mantissa point

/-- A point and at least one digit. -/
def pointFirst : Matcher :=
  .cat (.set (.single '.')) (.cat (.plus (.set .digits) false) (.opt exponent false))

def unsigned : Matcher := .alt scaled (.alt pointed pointFirst)

def decimalMatcher : Matcher :=
  .cat (.opt (.set signs) false) (.cat unsigned (.opt (.set suffixes) false))

/-- A suffix at the front of a text, and the text behind it. -/
def splitSuffix : Text → Text × Text
  | [] => ([], [])
  | c :: t => if c ∈ ['f', 'F', 'l', 'L'] then ([c], t) else ([], c :: t)

theorem splitSuffix_append (t : Text) : (splitSuffix t).1 ++ (splitSuffix t).2 = t := by
  fun_cases splitSuffix t <;> rfl

theorem decimal_stands :
    splits
      ("[+-]?(?:[1-9][0-9]*[eE][+-]?[0-9]+|(?:0|[1-9][0-9]*)\\.[0-9]*(?:[eE][+-]?[0-9]+)?"
        ++ "|\\.[0-9]+(?:[eE][+-]?[0-9]+)?)[fFlL]?") (standsFor decimalMatcher) = true := by
  decide +kernel

@[simp] theorem contains_signs : signs.contains c = decide (c ∈ "+-".toList) := by
  simp [signs]

@[simp] theorem contains_nonzero : nonzero.contains c = (c.isDigit && c ≠ '0') := by
  refine CharSet.contains_eq_of_isAscii (p := fun c => c.isDigit && c ≠ '0') (by decide)
    (fun c h => ?_) (by decide +kernel) c
  exact Bytes.isAscii_of_isDigit (Bool.and_eq_true_iff.1 h).1

theorem not_sign_of_isDigit (hc : c.isDigit = true) : c ∉ "+-".toList := by
  intro hsign
  exact Text.Literal.sign_notMem_digits c hsign ((isDigit_iff c).1 hc)

/-- A continuation that succeeds everywhere. -/
def Total (k : Text → Option Text) : Prop := ∀ t, (k t).isSome = true

theorem rest?_suffix (t : Text) :
    (Matcher.opt (.set suffixes) false).rest? some t = some (splitSuffix t).2 := by
  cases t with
  | nil => rfl
  | cons c t =>
    rw [rest?_opt, rest?_set_cons, suffixes, CharSet.contains_ofChars]
    by_cases hc : c ∈ ['f', 'F', 'l', 'L'] <;> simp [splitSuffix, hc]

/-- One or more digits are read to their end. -/
theorem rest?_digits (hk : Total k) (t : Text) :
    (Matcher.plus (.set .digits) false).rest? k t
      = if (Text.splitWhile Char.isDigit t).1.isEmpty then none
        else k (Text.splitWhile Char.isDigit t).2 := by
  cases t with
  | nil => rfl
  | cons c t =>
    rw [rest?_plus (yields_of_isSome hk), dropWhile_contains fun _ => CharSet.contains_digits,
      CharSet.contains_digits]
    by_cases hc : c.isDigit = true <;> simp [Text.splitWhile, hc]

/-- A sign in front of digits is read if there is one. -/
theorem rest?_sign (hk : ∀ c t, c ∈ "+-".toList → k (c :: t) = none) (t : Text) :
    (Matcher.opt (.set signs) false).rest? k t = k (Text.splitSign t).2 := by
  cases t with
  | nil => rfl
  | cons c t =>
    rw [rest?_opt, rest?_set_cons, contains_signs]
    by_cases hc : c ∈ "+-".toList
    · rw [if_pos (decide_eq_true hc), hk c t hc, Text.Literal.splitSign_of_mem hc, Option.or_none]
    · rw [if_neg (by simpa using hc), Text.Literal.splitSign_of_notMem hc, Option.none_or]

theorem rest?_exponent (hk : Total k) (t : Text) :
    exponent.rest? k t = (Text.exponent? t).bind fun parts => k parts.2 := by
  cases t with
  | nil => rfl
  | cons c t =>
    have hsign : ∀ d u, d ∈ "+-".toList →
        (Matcher.plus (.set .digits) false).rest? k (d :: u) = none := by
      intro d u hd
      rw [rest?_plus_cons, CharSet.contains_digits, if_neg]
      exact fun hdigit => not_sign_of_isDigit hdigit hd
    rw [exponent, rest?_cat, rest?_set_cons, rest?_cat, rest?_sign hsign, rest?_digits hk,
      CharSet.contains_ofChars, Text.exponent?]
    by_cases hc : c = 'e' ∨ c = 'E'
    · rw [if_pos (by simpa using hc), if_pos hc]
      dsimp only
      split <;> rfl
    · rw [if_neg (by simpa using hc), if_neg hc, Option.bind_none]

/-- The text behind an exponent, if there is one. -/
def behindExponent (t : Text) : Text := (Text.exponent? t).elim t (·.2)

theorem rest?_opt_exponent (hk : Total k) (t : Text) :
    (Matcher.opt exponent false).rest? k t = k (behindExponent t) := by
  rw [rest?_opt, rest?_exponent hk, behindExponent]
  cases Text.exponent? t with
  | none => exact Option.none_or
  | some parts =>
    obtain ⟨u, hu⟩ := Option.isSome_iff_exists.1 (hk parts.2)
    rw [Option.bind_some, Option.elim_some, hu, Option.some_or]

theorem fraction_rest (t : Text) :
    (Text.fraction t).rest = behindExponent (Text.splitWhile Char.isDigit t).2 := by
  simp only [Text.fraction, behindExponent]
  split
  · next h => rw [h]; rfl
  · next h => rw [h]; rfl

theorem total_opt_exponent (hk : Total k) : Total ((Matcher.opt exponent false).rest? k) := by
  intro t
  rw [rest?_opt_exponent hk]
  exact hk (behindExponent t)

theorem rest?_fraction (hk : Total k) (t : Text) :
    (Matcher.cat (.star (.set .digits) false) (.opt exponent false)).rest? k t
      = k (Text.fraction t).rest := by
  rw [rest?_cat, rest?_star (yields_of_isSome (total_opt_exponent hk)),
    dropWhile_contains fun _ => CharSet.contains_digits, rest?_opt_exponent hk, fraction_rest]

/-- The text behind a point and a fraction. -/
def behindPoint? : Text → Option Text
  | [] => none
  | c :: t => if c = '.' then some (Text.fraction t).rest else none

theorem rest?_point (hk : Total k) (t : Text) :
    point.rest? k t = (behindPoint? t).bind k := by
  cases t with
  | nil => rfl
  | cons c t =>
    rw [point, rest?_cat, rest?_set_cons, rest?_fraction hk, CharSet.contains_single, behindPoint?]
    by_cases hc : c = '.' <;> simp [hc]

/-- Digits in front of what does not begin with a digit are read to their end. -/
theorem rest?_integer (hk : ∀ c t, c.isDigit = true → k (c :: t) = none) (t : Text) :
    (Matcher.star (.set .digits) false).rest? k t = k (Text.splitWhile Char.isDigit t).2 := by
  have hstops : ∀ c t, CharSet.digits.contains c = true → k (c :: t) = none := by
    simpa using hk
  rw [rest?_star (yields_of_stops hstops), dropWhile_contains fun _ => CharSet.contains_digits]

theorem rest?_scaled (hk : Total k) (c : Char) (t : Text) : scaled.rest? k (c :: t)
    = if (c.isDigit && c ≠ '0') = true then
        (Text.exponent? (Text.splitWhile Char.isDigit t).2).bind fun parts => k parts.2
      else none := by
  have hstops : ∀ c t, c.isDigit = true → exponent.rest? k (c :: t) = none := by
    intro c t hc
    have he : ¬ (c = 'e' ∨ c = 'E') := by
      rintro (rfl | rfl) <;> cases hc
    rw [rest?_exponent hk, Text.exponent?, if_neg he, Option.bind_none]
  rw [scaled, rest?_cat, rest?_set_cons, contains_nonzero, rest?_cat, rest?_integer hstops,
    rest?_exponent hk]

theorem rest?_pointed (hk : Total k) (c : Char) (t : Text) : pointed.rest? k (c :: t)
    = if c = '0' then (behindPoint? t).bind k
      else if c.isDigit = true then
        (behindPoint? (Text.splitWhile Char.isDigit t).2).bind k
      else none := by
  have hstops : ∀ c t, c.isDigit = true → point.rest? k (c :: t) = none := by
    intro c t hc
    have hpoint : c ≠ '.' := by
      rintro rfl
      cases hc
    rw [rest?_point hk, behindPoint?, if_neg hpoint, Option.bind_none]
  rw [pointed, rest?_cat, mantissa, rest?_alt, rest?_set_cons, rest?_cat, rest?_set_cons,
    rest?_integer hstops, rest?_point hk, rest?_point hk, CharSet.contains_single,
    contains_nonzero]
  by_cases hc : c = '0' <;> simp [hc]

theorem rest?_pointFirst (hk : Total k) (c : Char) (t : Text) : pointFirst.rest? k (c :: t)
    = if c = '.' ∧ (Text.splitWhile Char.isDigit t).1.isEmpty = false then
        k (Text.fraction t).rest
      else none := by
  rw [pointFirst, rest?_cat, rest?_set_cons, rest?_cat, rest?_digits (total_opt_exponent hk),
    rest?_opt_exponent hk, fraction_rest, CharSet.contains_single]
  by_cases hc : c = '.' <;> simp [hc]

/-- Whether the text is a zero with an exponent. -/
def zeroScaled : Text → Bool
  | [] => false
  | c :: t => c = '0' && (Text.exponent? t).isSome

theorem exponent?_of_behindPoint? {rest : Text} (h : behindPoint? t = some rest) :
    Text.exponent? t = none := by
  cases t with
  | nil => rfl
  | cons c t =>
    rw [behindPoint?] at h
    split at h
    · next hc =>
      subst hc
      rfl
    · cases h

/-- An integer part is one of a decimal if a point follows or an exponent. -/
theorem behind?_decimal_afterInteger (t : Text) :
    behind? .codeNumberDecimal (some (Text.afterInteger t))
      = (behindPoint? t).or ((Text.exponent? t).map (·.2)) := by
  have hne : TokenType.codeNumberInteger ≠ .codeNumberDecimal := by decide
  cases t with
  | nil => simp [Text.afterInteger, behindPoint?, Text.exponent?, hne]
  | cons c t =>
    rw [Text.afterInteger, behindPoint?]
    split
    · simp
    · rw [Text.integerOrExponent]
      split
      · next h => simp [h]
      · next h => simp [h, hne]

/-- Behind a zero only a point goes on to a decimal, except for an exponent. -/
theorem behind?_decimal_afterZero (h : (Text.exponent? t).isSome = false) :
    behind? .codeNumberDecimal (Text.afterZero? t) = behindPoint? t := by
  have hinteger : TokenType.codeNumberInteger ≠ .codeNumberDecimal := by decide
  have hoctal : TokenType.codeNumberOctal ≠ .codeNumberDecimal := by decide
  have hhexadecimal : TokenType.codeNumberHexadecimal ≠ .codeNumberDecimal := by decide
  cases t with
  | nil => simp [Text.afterZero?, behindPoint?, hinteger]
  | cons c t =>
    have hpoint : c ≠ '.' → behindPoint? (c :: t) = none := fun hc => if_neg hc
    rw [Text.afterZero?]
    split
    · next hc =>
      have hc : c ≠ '.' := by
        rintro rfl
        cases hc
      simp [hpoint hc, hoctal]
    split
    · next hx =>
      have hc : c ≠ '.' := by rcases hx with rfl | rfl <;> decide
      dsimp only
      split
      · simp [hpoint hc]
      · simp [hpoint hc, hhexadecimal]
    split
    · next h89 =>
      have hc : c ≠ '.' := by rcases h89 with rfl | rfl <;> decide
      simp [hpoint hc]
    · rw [behind?_decimal_afterInteger, Option.not_isSome_iff_eq_none.1 (Bool.eq_false_iff.1 h)]
      simp

theorem behindPoint?_of_exponent? (h : (Text.exponent? t).isSome = true) :
    behindPoint? t = none := by
  cases hpoint : behindPoint? t with
  | none => rfl
  | some rest =>
    rw [exponent?_of_behindPoint? hpoint] at h
    cases h

theorem rest?_unsigned (hk : Total k) (t : Text) : unsigned.rest? k t
    = if zeroScaled t = true then none
      else (behind? .codeNumberDecimal (Text.unsignedNumber? t)).bind k := by
  cases t with
  | nil => rfl
  | cons c t =>
    rw [unsigned, rest?_alt, rest?_alt, rest?_scaled hk, rest?_pointed hk, rest?_pointFirst hk,
      zeroScaled, Text.unsignedNumber?]
    by_cases hpoint : c = '.'
    · subst hpoint
      have hzero : ¬ '.' = '0' := by decide
      have hdigit : '.'.isDigit = false := rfl
      cases hdigits : (Text.splitWhile Char.isDigit t).1.isEmpty <;> simp [hzero, hdigit, hdigits]
    by_cases hzero : c = '0'
    · subst hzero
      simp only [if_neg hpoint, if_true, behind?_map_cons]
      cases hexponent : (Text.exponent? t).isSome with
      | true => simp [behindPoint?_of_exponent? hexponent]
      | false => simp [behind?_decimal_afterZero hexponent]
    by_cases hdigit : c.isDigit = true
    · have hinteger : behind? .codeNumberDecimal
            (some ((Text.afterInteger (Text.splitWhile Char.isDigit t).2).cons
              (c :: (Text.splitWhile Char.isDigit t).1)))
          = (behindPoint? (Text.splitWhile Char.isDigit t).2).or
            ((Text.exponent? (Text.splitWhile Char.isDigit t).2).map (·.2)) :=
        behind?_decimal_afterInteger _
      simp only [if_neg hpoint, if_neg hzero, hdigit, if_true, hinteger]
      cases hexponent : Text.exponent? (Text.splitWhile Char.isDigit t).2 with
      | none => simp [hpoint, hzero]
      | some parts =>
        have hnone := behindPoint?_of_exponent? (Option.isSome_of_eq_some hexponent)
        simp [hnone, hpoint, hzero]
    · simp [hpoint, hzero, hdigit]

theorem unsigned_of_sign (hk : Total k) (hc : c ∈ "+-".toList) (t : Text) :
    unsigned.rest? k (c :: t) = none := by
  have hnumber : Text.unsignedNumber? (c :: t) = none := by
    have hsign : c = '+' ∨ c = '-' := by simpa using hc
    rcases hsign with rfl | rfl <;> rfl
  rw [rest?_unsigned hk, hnumber]
  simp

theorem rest?_decimal (t : Text) : decimalMatcher.rest? some t
    = if zeroScaled (Text.splitSign t).2 = true then none
      else (behind? .codeNumberDecimal t.number?).map fun rest => (splitSuffix rest).2 := by
  have htotal : Total ((Matcher.opt (.set suffixes) false).rest? some) := by
    intro t
    rw [rest?_suffix]
    rfl
  have hsign : ∀ c t, c ∈ "+-".toList →
      (Matcher.cat unsigned (.opt (.set suffixes) false)).rest? some (c :: t) = none :=
    fun c t hc => unsigned_of_sign htotal hc t
  rw [decimalMatcher, rest?_cat, rest?_sign hsign, rest?_cat, rest?_unsigned htotal, Text.number?,
    behind?_map_cons]
  split
  · rfl
  · cases behind? .codeNumberDecimal (Text.unsignedNumber? (Text.splitSign t).2) with
    | none => rfl
    | some rest => exact rest?_suffix rest

/-- A sign or none, a zero and an exponent stand at the front of the text. -/
def BeginsScaledZero (t : Text) : Prop :=
  t.BeginsWith (Numeral.sign * (oneOf "0" * Numeral.exponent))

theorem isSome_exponent?_iff :
    (Text.exponent? t).isSome = true ↔ Text.BeginsWith t Numeral.exponent := by
  constructor
  · intro h
    obtain ⟨⟨u, rest⟩, hparts⟩ := Option.isSome_iff_exists.1 h
    obtain ⟨j, w, hw, hbegin⟩ := (Text.Literal.isLongest_of_exponent? hparts).beginsWith
    exact ⟨w, (NumberKind.mem_only.1 hw).2, hbegin⟩
  · intro h
    cases hparts : Text.exponent? t with
    | none => exact absurd h (Text.Literal.not_beginsWith_exponent hparts)
    | some parts => rfl

theorem zeroScaled_iff : zeroScaled (Text.splitSign t).2 = true ↔ BeginsScaledZero t := by
  rw [BeginsScaledZero, Text.Literal.beginsWith_sign_mul_zero_mul]
  cases (Text.splitSign t).2 with
  | nil => simp [zeroScaled]
  | cons c u =>
    rw [zeroScaled, Bool.and_eq_true, isSome_exponent?_iff, decide_eq_true_eq]
    by_cases hc : c = '0' <;> simp [hc]

theorem unsignedNumber?_of_zeroScaled (h : zeroScaled t = true) :
    ∃ u rest, Text.unsignedNumber? t = some ⟨.codeNumberDecimal, u, rest⟩ := by
  cases t with
  | nil => cases h
  | cons c t =>
    obtain ⟨hzero, hexponent⟩ := Bool.and_eq_true_iff.1 h
    obtain rfl := of_decide_eq_true hzero
    obtain ⟨⟨exponent, rest⟩, hparts⟩ := Option.isSome_iff_exists.1 hexponent
    cases t with
    | nil => cases hparts
    | cons e t =>
      have he : e = 'e' ∨ e = 'E' := by
        by_contra hne
        rw [Text.exponent?, if_neg hne] at hparts
        cases hparts
      have hafter : Text.afterZero? (e :: t) = some ⟨.codeNumberDecimal, exponent, rest⟩ := by
        rcases he with rfl | rfl <;>
          simp [Text.afterZero?, Text.isOctalDigit, Text.afterInteger, Text.integerOrExponent,
            hparts]
      exact ⟨_, _, by rw [Text.unsignedNumber?, if_neg (by decide), if_pos rfl, hafter]; rfl⟩

/-- The decimal rule matches exactly where the number scanner finds a decimal that is not a zero
with an exponent, with a sign or without. It takes the text of the scanner's token and one more
character if that is a suffix. The scanner does find a decimal in a zero with an exponent, which the
rule misses. -/
theorem decimal_misses_scaled_zeros (t : Text) :
    (∀ u rest, Scanner.number.pop t = .ok (some ⟨some .codeNumberDecimal, u⟩, rest) →
      ¬ BeginsScaledZero t → (decimal : Rule ε).Cuts 0 t
        (some (⟨some .codeNumberDecimal, u ++ (splitSuffix rest).1⟩, (splitSuffix rest).2))) ∧
    ((∀ u rest, Scanner.number.pop t ≠ .ok (some ⟨some .codeNumberDecimal, u⟩, rest)) →
      (decimal : Rule ε).Cuts 0 t none) ∧
    (BeginsScaledZero t →
      (∃ u rest, Scanner.number.pop t = .ok (some ⟨some .codeNumberDecimal, u⟩, rest)) ∧
      (decimal : Rule ε).Cuts 0 t none) := by
  simp only [← zeroScaled_iff, ne_eq, pop_number_iff]
  refine ⟨?_, ?_, ?_⟩
  · intro u rest hnumber hzero
    have ht : (u ++ (splitSuffix rest).1) ++ (splitSuffix rest).2 = t := by
      rw [List.append_assoc, splitSuffix_append]
      exact Text.append_of_number? hnumber
    have hrest := rest?_decimal t
    rw [if_neg hzero, hnumber, behind?_some, if_pos rfl, Option.map_some, ← ht] at hrest
    rw [← ht]
    exact cuts_of_rest? decimal_stands (fun names => Action.marks_emit) hrest
  · intro hnumber
    apply cuts_of_rest?_eq_none decimal_stands
    rw [rest?_decimal, behind?_eq_none hnumber, Option.map_none, ite_self]
  · intro hzero
    obtain ⟨u, rest, hunsigned⟩ := unsignedNumber?_of_zeroScaled hzero
    have hnumber := congrArg (Option.map (·.cons (Text.splitSign t).1)) hunsigned
    refine ⟨⟨_, rest, hnumber⟩, ?_⟩
    apply cuts_of_rest?_eq_none decimal_stands
    rw [rest?_decimal, if_pos hzero]

/-- With a sign, an exponent and two suffixes behind it, of which the rule takes one. -/
theorem decimal_misses_scaled_zeros_suffixed :
    Scanner.number.pop "-0.5e+7fF".toList
        = .ok (some ⟨some .codeNumberDecimal, "-0.5e+7".toList⟩, "fF".toList) ∧
      (decimal : Rule Unit).Cuts 0 "-0.5e+7fF".toList
        (some (⟨some .codeNumberDecimal, "-0.5e+7f".toList⟩, "F".toList)) := by
  have hpop : Scanner.number.pop "-0.5e+7fF".toList
      = .ok (some ⟨some .codeNumberDecimal, "-0.5e+7".toList⟩, "fF".toList) :=
    pop_number_iff.2 rfl
  have hzero : ¬ BeginsScaledZero "-0.5e+7fF".toList := by
    rw [← zeroScaled_iff]
    decide
  exact ⟨hpop, (decimal_misses_scaled_zeros _).1 _ _ hpop hzero⟩

/-- The number scanner takes a zero with an exponent as a decimal, and the rule declines. -/
theorem zero_with_exponent_is_missed :
    Scanner.number.pop "0e5".toList
        = .ok (some ⟨some .codeNumberDecimal, "0e5".toList⟩, []) ∧
      (decimal : Rule Unit).Cuts 0 "0e5".toList none := by
  constructor
  · exact pop_number_iff.2 rfl
  · apply cuts_of_rest?_eq_none decimal_stands
    rw [rest?_decimal, if_pos (by decide)]

end ModalLexer.Rule
