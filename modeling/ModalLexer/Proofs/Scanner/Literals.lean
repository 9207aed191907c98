import Mathlib.Tactic.Abel
import ModalLexer.Engine.State
import ModalLexer.Proofs.Scanner.NumberGrammar

/-! # The number scanner finds the longest literal

Each part of the scanner reads the longest of the words that may stand in its place, and tells their
kinds apart. An exponent is read with its digits or not at all. Only a leading zero can be refused
where there is a literal, for what stands behind it.
-/

open scoped Computability

namespace ModalLexer

/-- A class of characters up to `z` is known by the characters of ASCII in it. -/
theorem iff_mem_of_le {p : Char → Bool} {chars : List Char} (hp : ∀ c, p c = true → c ≤ 'z')
    (hchars : ∀ c ∈ chars, c ≤ 'z')
    (hascii : ∀ n : Fin 128, p (Char.ofNat n) = true ↔ Char.ofNat n ∈ chars) (c : Char) :
    p c = true ↔ c ∈ chars := by
  by_cases hc : c ≤ 'z'
  · have hlt : c.toNat < 128 := Nat.lt_of_le_of_lt (UInt32.le_iff_toNat_le.1 hc) (by decide)
    simpa using hascii ⟨c.toNat, hlt⟩
  · exact ⟨fun h => absurd (hp c h) hc, fun h => absurd (hchars c h) hc⟩

theorem le_of_isDigit {c : Char} (h : c.isDigit = true) : c ≤ 'z' := by
  simp only [Char.isDigit, Bool.and_eq_true, decide_eq_true_eq] at h
  exact Char.le_trans (Char.le_def.2 h.2 : c ≤ '9') (by decide)

theorem isDigit_iff (c : Char) : c.isDigit = true ↔ c ∈ "0123456789".toList :=
  iff_mem_of_le (fun _ => le_of_isDigit) (by simp) (by decide +kernel) c

theorem isOctalDigit_iff (c : Char) : Text.isOctalDigit c = true ↔ c ∈ "01234567".toList := by
  refine iff_mem_of_le (fun c h => ?_) (by simp) (by decide +kernel) c
  simp only [Text.isOctalDigit, Bool.and_eq_true, decide_eq_true_eq] at h
  exact Char.le_trans h.2 (by decide)

theorem isHexDigit_iff (c : Char) :
    Text.isHexDigit c = true ↔ c ∈ "0123456789abcdefABCDEF".toList := by
  refine iff_mem_of_le (fun c h => ?_) (by simp) (by decide +kernel) c
  simp only [Text.isHexDigit, Bool.or_eq_true, Bool.and_eq_true, decide_eq_true_eq] at h
  rcases h with (h | ⟨-, h⟩) | ⟨-, h⟩
  · exact le_of_isDigit h
  · exact Char.le_trans h (by decide)
  · exact Char.le_trans h (by decide)

namespace Numeral

variable {m : Language Char} {c : Char} {u : Text}

@[simp] theorem nil_mem_sign_mul : [] ∈ sign * m ↔ [] ∈ m := by
  rw [sign, add_mul, one_mul, Language.mem_add]
  simp

theorem cons_mem_sign_mul : c :: u ∈ sign * m ↔ c :: u ∈ m ∨ c ∈ "+-".toList ∧ u ∈ m := by
  rw [sign, add_mul, one_mul, Language.mem_add, cons_mem_oneOf_mul]

theorem cons_mem_sign_mul_of_mem (hc : c ∈ "+-".toList) (hfree : c :: u ∉ m) :
    c :: u ∈ sign * m ↔ u ∈ m := by
  rw [cons_mem_sign_mul]
  exact ⟨fun hu => (hu.resolve_left hfree).2, fun hu => .inr ⟨hc, hu⟩⟩

theorem mem_sign_mul_of_notMem {t : Text} (hc : c ∉ "+-".toList) (hbegin : u <+: c :: t) :
    u ∈ sign * m ↔ u ∈ m :=
  Text.mem_iff_of_prefix_cons hbegin nil_mem_sign_mul fun _ =>
    cons_mem_sign_mul.trans (or_iff_left fun h => hc h.1)

@[simp] theorem nil_notMem_exponent : [] ∉ exponent := by
  rw [exponent, mul_assoc]
  exact nil_notMem_oneOf_mul

theorem cons_mem_exponent :
    c :: u ∈ exponent ↔ c ∈ "eE".toList ∧ u ∈ sign * (digit * digit∗) := by
  rw [exponent, mul_assoc, cons_mem_oneOf_mul]

end Numeral

namespace Text.Literal

open Numeral NumberKind

variable {l : Literal} {forms : NumberKind → Language Char} {t u rest : Text}

theorem splitSign_of_mem {c : Char} (h : c ∈ "+-".toList) (t : Text) :
    splitSign (c :: t) = ([c], t) := if_pos (by simpa using h)

theorem splitSign_of_notMem {c : Char} (h : c ∉ "+-".toList) (t : Text) :
    splitSign (c :: t) = ([], c :: t) := if_neg (by simpa using h)

theorem IsLongest.signed (hfree : ∀ j, ∀ c ∈ "+-".toList, ∀ u, c :: u ∉ forms j)
    (h : l.IsLongest forms (splitSign t).2) :
    (l.cons (splitSign t).1).IsLongest (fun j => sign * forms j) t := by
  cases t with
  | nil =>
    refine h.congr fun j u hbegin => ?_
    rw [List.prefix_nil.1 hbegin, nil_mem_sign_mul]
  | cons c t =>
    by_cases hc : c ∈ "+-".toList
    · rw [splitSign_of_mem hc] at h ⊢
      exact h.cons_cons fun j u => cons_mem_sign_mul_of_mem hc (hfree j c hc u)
    · rw [splitSign_of_notMem hc] at h ⊢
      exact h.congr fun j u hbegin => mem_sign_mul_of_notMem hc hbegin

theorem beginsWith_sign_mul {m : Language Char} (hfree : ∀ c ∈ "+-".toList, ∀ u, c :: u ∉ m)
    (hnil : [] ∉ m) : t.BeginsWith (sign * m) ↔ (splitSign t).2.BeginsWith m := by
  cases t with
  | nil => exact beginsWith_nil.trans (nil_mem_sign_mul.trans beginsWith_nil.symm)
  | cons c t =>
    by_cases hc : c ∈ "+-".toList
    · rw [splitSign_of_mem hc]
      exact beginsWith_cons (mt nil_mem_sign_mul.1 hnil)
        fun u => cons_mem_sign_mul_of_mem hc (hfree c hc u)
    · rw [splitSign_of_notMem hc]
      exact beginsWith_congr fun u hbegin => mem_sign_mul_of_notMem hc hbegin

theorem isLongest_only_one (k : NumberKind) (t : Text) :
    (⟨k.type, [], t⟩ : Literal).IsLongest (only k 1) t :=
  isLongest_nil (by simp [Language.mem_one]) (by simp [Language.mem_one])

theorem cons_notMem_only_one (k j : NumberKind) (c : Char) (u : Text) : c :: u ∉ only k 1 j := by
  simp [Language.mem_one]

theorem sign_notMem_digits : ∀ c ∈ "+-".toList, c ∉ "0123456789".toList := by simp

theorem isLongest_of_exponent? (h : exponent? t = some (u, rest)) :
    (⟨.codeNumberDecimal, u, rest⟩ : Literal).IsLongest (only .decimal exponent) t := by
  cases t with
  | nil => cases h
  | cons e t =>
    simp only [exponent?] at h
    split at h
    · next he =>
      split at h
      · cases h
      · next hne =>
        obtain ⟨rfl, rfl⟩ := Prod.mk.inj (Option.some.inj h)
        have hplus := (isLongest_only_one .decimal _).plus isDigit_iff
          (fun j c _ u => cons_notMem_only_one .decimal j c u) (mt List.isEmpty_iff.2 hne)
        have hsigned := hplus.signed
          fun j c hc u hu => sign_notMem_digits c hc (cons_mem_oneOf_mul.1 hu).1
        have hstep : ∀ j u, e :: u ∈ only .decimal exponent j ↔
            u ∈ sign * (digit * (digit∗ * only .decimal 1 j)) := by
          intro j u
          simp only [mul_only, mem_only, cons_mem_exponent, mul_one]
          simp [he]
        simpa [Literal.cons, NumberKind.type] using hsigned.cons_cons hstep
    · cases h

theorem not_beginsWith_exponent (h : exponent? t = none) : ¬ t.BeginsWith exponent := by
  cases t with
  | nil => simp [beginsWith_nil]
  | cons e t =>
    simp only [exponent?] at h
    split at h
    · next he =>
      split at h
      · next hnil =>
        have hstep : ∀ u, e :: u ∈ exponent ↔ u ∈ sign * (digit * digit∗) := by
          simp [cons_mem_exponent, he]
        rw [beginsWith_cons nil_notMem_exponent hstep,
          beginsWith_sign_mul
            (fun c hc u hu => sign_notMem_digits c hc (cons_mem_oneOf_mul.1 hu).1)
            nil_notMem_oneOf_mul]
        exact mt BeginsWith.left
          ((splitWhile_fst_eq_nil_iff isDigit_iff).1 (List.isEmpty_iff.1 hnil))
      · cases h
    · next he =>
      rintro ⟨u, hu, hbegin⟩
      cases u with
      | nil => exact nil_notMem_exponent hu
      | cons d u =>
        obtain ⟨rfl, -⟩ := List.cons_prefix_cons.1 hbegin
        exact he (by simpa using (cons_mem_exponent.1 hu).1)

/-- The end of a literal: nothing for one of the kind, or an exponent for a decimal. -/
def ending (k j : NumberKind) : Language Char := only k 1 j + only .decimal exponent j

theorem nil_mem_ending {k j : NumberKind} : [] ∈ ending k j ↔ j = k := by
  rw [ending, Language.mem_add]
  simp [Language.mem_one]

theorem cons_mem_ending {k j : NumberKind} {c : Char} :
    c :: u ∈ ending k j ↔ j = .decimal ∧ c :: u ∈ exponent := by
  rw [ending, Language.mem_add]
  simp [Language.mem_one]

theorem isLongest_ending_of_some (k : NumberKind) (h : exponent? t = some (u, rest)) :
    (⟨.codeNumberDecimal, u, rest⟩ : Literal).IsLongest (ending k) t := by
  have hlongest := isLongest_of_exponent? h
  refine hlongest.of_ne_nil ?_ fun j c u => by rw [cons_mem_ending, mem_only]
  rintro rfl
  obtain ⟨k, -, hmem⟩ := hlongest.kind
  exact nil_notMem_exponent (mem_only.1 ((hmem k).2 rfl)).2

theorem isLongest_ending_of_none (k : NumberKind) (h : exponent? t = none) :
    (⟨k.type, [], t⟩ : Literal).IsLongest (ending k) t := by
  refine isLongest_nil (fun j => nil_mem_ending) fun j u hu hbegin => ?_
  cases u with
  | nil => rfl
  | cons c u =>
    exact absurd ⟨_, (cons_mem_ending.1 hu).2, hbegin⟩ (not_beginsWith_exponent h)

theorem integerOrExponent_isLongest (t : Text) :
    (integerOrExponent t).IsLongest (ending .integer) t := by
  unfold integerOrExponent
  split
  · next h =>
    exact isLongest_ending_of_some _ h
  · next h =>
    exact isLongest_ending_of_none .integer h

theorem fraction_eq (t : Text) : ∃ l : Literal,
    l.IsLongest (ending .decimal) (splitWhile Char.isDigit t).2 ∧
      fraction t = l.cons (splitWhile Char.isDigit t).1 := by
  unfold fraction
  dsimp only
  split
  · next h =>
    exact ⟨_, isLongest_ending_of_some _ h, rfl⟩
  · next h =>
    exact ⟨_, isLongest_ending_of_none _ h, by simp [Literal.cons, NumberKind.type]⟩

theorem digit_free : ∀ c ∈ "0123456789".toList, c ∉ "eE".toList ∧ c ≠ '.' := by simp

theorem digit_free_ending (k j : NumberKind) (c : Char) (hc : c ∈ "0123456789".toList) (u : Text) :
    c :: u ∉ ending k j := by
  rw [cons_mem_ending, cons_mem_exponent]
  rintro ⟨-, he, -⟩
  exact (digit_free c hc).1 he

theorem fraction_isLongest (t : Text) :
    (fraction t).IsLongest (fun j => digit∗ * ending .decimal j) t := by
  obtain ⟨l, hl, heq⟩ := fraction_eq t
  rw [heq]
  exact hl.run isDigit_iff (digit_free_ending .decimal)

/-- What may follow the digits of an integer part. -/
def afterIntegerForms (j : NumberKind) : Language Char :=
  ending .integer j + oneOf "." * (digit∗ * ending .decimal j)

theorem nil_mem_afterIntegerForms {j : NumberKind} : [] ∈ afterIntegerForms j ↔ j = .integer := by
  rw [afterIntegerForms, Language.mem_add, nil_mem_ending]
  simp

theorem cons_mem_afterIntegerForms {j : NumberKind} {c : Char} : c :: u ∈ afterIntegerForms j ↔
    (j = .decimal ∧ c :: u ∈ exponent) ∨ c = '.' ∧ u ∈ digit∗ * ending .decimal j := by
  rw [afterIntegerForms, Language.mem_add, cons_mem_ending, cons_mem_oneOf_mul]
  simp

theorem afterInteger_isLongest (t : Text) : (afterInteger t).IsLongest afterIntegerForms t := by
  fun_cases afterInteger t with
  | case1 =>
    refine isLongest_nil (fun j => nil_mem_afterIntegerForms) fun j u _ hbegin => ?_
    exact List.prefix_nil.1 hbegin
  | case2 t =>
    refine (fraction_isLongest t).cons_cons fun j u => ?_
    rw [cons_mem_afterIntegerForms, cons_mem_exponent]
    simp
  | case3 c t hc =>
    refine (integerOrExponent_isLongest (c :: t)).congr fun j u hbegin =>
      mem_iff_of_prefix_cons hbegin (by rw [nil_mem_afterIntegerForms, nil_mem_ending]) fun v => ?_
    rw [cons_mem_afterIntegerForms, cons_mem_ending]
    simp [hc]

/-- What may follow a leading zero. -/
def afterZeroForms (j : NumberKind) : Language Char :=
  afterIntegerForms j + octalDigit * (octalDigit∗ * only .octal 1 j)
    + oneOf "xX" * (hexDigit * (hexDigit∗ * only .hexadecimal 1 j))

theorem nil_mem_afterZeroForms {j : NumberKind} : [] ∈ afterZeroForms j ↔ j = .integer := by
  rw [afterZeroForms, Language.mem_add, Language.mem_add, nil_mem_afterIntegerForms]
  simp

theorem cons_mem_afterZeroForms {j : NumberKind} {c : Char} : c :: u ∈ afterZeroForms j ↔
    (c :: u ∈ afterIntegerForms j ∨
      c ∈ "01234567".toList ∧ u ∈ octalDigit∗ * only .octal 1 j) ∨
    c ∈ "xX".toList ∧ u ∈ hexDigit * (hexDigit∗ * only .hexadecimal 1 j) := by
  rw [afterZeroForms, Language.mem_add, Language.mem_add, cons_mem_oneOf_mul, cons_mem_oneOf_mul]

/-- A leading zero starts no literal. -/
def RefusedAfterZero (t : Text) : Prop :=
  t.BeginsWith (oneOf "89") ∨ t.BeginsWith (oneOf "xX") ∧ ¬ t.BeginsWith (oneOf "xX" * hexDigit)

theorem octalDigit_free : ∀ c ∈ "01234567".toList,
    c ∉ "eE".toList ∧ c ≠ '.' ∧ c ∉ "xX".toList ∧ c ∉ "89".toList := by simp

theorem hexMark_free : ∀ c ∈ "xX".toList,
    c ∉ "eE".toList ∧ c ≠ '.' ∧ c ∉ "01234567".toList ∧ c ∉ "89".toList := by simp

theorem isLongest_of_afterZero? (h : afterZero? t = some l) : l.IsLongest afterZeroForms t := by
  cases t with
  | nil =>
    cases h
    refine isLongest_nil (k := .integer) (fun j => nil_mem_afterZeroForms) fun j u _ hbegin => ?_
    exact List.prefix_nil.1 hbegin
  | cons c t =>
    simp only [afterZero?] at h
    split at h
    · next hc =>
      cases h
      have hmem := (isOctalDigit_iff c).1 hc
      obtain ⟨he, hpoint, hx, -⟩ := octalDigit_free c hmem
      have hrun := (isLongest_only_one .octal _).run isOctalDigit_iff
        (fun j d _ u => cons_notMem_only_one .octal j d u) (t := t)
      have hstep : ∀ j u, c :: u ∈ afterZeroForms j ↔ u ∈ octalDigit∗ * only .octal 1 j := by
        intro j u
        rw [cons_mem_afterZeroForms, cons_mem_afterIntegerForms, cons_mem_exponent]
        simp only [he, hpoint, hx, hmem, false_and, and_false, true_and, false_or, or_false]
      simpa [Literal.cons, NumberKind.type] using hrun.cons_cons hstep
    split at h
    · next hc =>
      split at h
      · cases h
      · next hne =>
        cases h
        have hmem : c ∈ "xX".toList := by simpa using hc
        obtain ⟨he, hpoint, hoctal, -⟩ := hexMark_free c hmem
        have hplus := (isLongest_only_one .hexadecimal _).plus isHexDigit_iff
          (fun j d _ u => cons_notMem_only_one .hexadecimal j d u) (mt List.isEmpty_iff.2 hne)
        have hstep : ∀ j u, c :: u ∈ afterZeroForms j ↔
            u ∈ hexDigit * (hexDigit∗ * only .hexadecimal 1 j) := by
          intro j u
          rw [cons_mem_afterZeroForms, cons_mem_afterIntegerForms, cons_mem_exponent]
          simp only [he, hpoint, hoctal, hmem, false_and, and_false, true_and, false_or]
        simpa [Literal.cons, NumberKind.type] using hplus.cons_cons hstep
    split at h
    · cases h
    · next hoctal hc _ =>
      -- What begins neither an octal nor a hexadecimal literal goes on like any integer part.
      cases h
      have hx : c ∉ "xX".toList := by simpa using hc
      refine (afterInteger_isLongest (c :: t)).congr fun j u hbegin =>
        mem_iff_of_prefix_cons hbegin
          (by rw [nil_mem_afterIntegerForms, nil_mem_afterZeroForms]) fun v => ?_
      rw [cons_mem_afterZeroForms]
      simp only [hx, mt (isOctalDigit_iff c).2 hoctal, false_and, or_false]

theorem afterZero?_eq_none_iff : afterZero? t = none ↔ RefusedAfterZero t := by
  cases t with
  | nil => simp [afterZero?, RefusedAfterZero]
  | cons c t =>
    simp only [afterZero?, RefusedAfterZero, beginsWith_cons_oneOf, beginsWith_cons_oneOf_mul]
    split
    · next hc =>
      obtain ⟨-, -, hx, h89⟩ := octalDigit_free c ((isOctalDigit_iff c).1 hc)
      simp only [h89, hx, false_and, or_self]
      simp
    split
    · next hc =>
      have hx : c ∈ "xX".toList := by simpa using hc
      have h89 : c ∉ "89".toList := (hexMark_free c hx).2.2.2
      simp only [h89, hx, true_and, false_or, ← splitWhile_fst_eq_nil_iff isHexDigit_iff]
      simp
    split
    · next h89 =>
      exact iff_of_true rfl (.inl (by simpa using h89))
    · next hx h89 =>
      have hnot : c ∉ "89".toList ∧ c ∉ "xX".toList := by
        constructor
        · simpa using h89
        · simpa using hx
      simp only [hnot, false_and, or_self]
      simp

/-- A literal begins with a zero, with another digit or with a point. -/
theorem literals_eq (j : NumberKind) : j.literals = oneOf "0" * afterZeroForms j
    + oneOf "123456789" * (digit∗ * afterIntegerForms j)
    + oneOf "." * (digit * (digit∗ * ending .decimal j)) := by
  cases j with
  | hexadecimal =>
    simp [NumberKind.literals, Numeral.hexadecimal, afterZeroForms, afterIntegerForms, ending, only,
      mul_assoc]
  | octal =>
    simp [NumberKind.literals, Numeral.octal, afterZeroForms, afterIntegerForms, ending, only]
  | decimal =>
    simp only [NumberKind.literals, Numeral.decimal, Numeral.integer, afterZeroForms,
      afterIntegerForms, ending, only_self, only_of_ne (by decide : NumberKind.decimal ≠ .integer),
      only_of_ne (by decide : NumberKind.decimal ≠ .octal),
      only_of_ne (by decide : NumberKind.decimal ≠ .hexadecimal),
      mul_zero, zero_add, add_zero, add_mul, mul_add, mul_assoc]
    abel
  | integer =>
    simp [NumberKind.literals, Numeral.integer, afterZeroForms, afterIntegerForms, ending, only]

theorem nil_notMem_literals (j : NumberKind) : [] ∉ j.literals := by
  rw [literals_eq, Language.mem_add, Language.mem_add]
  simp

theorem cons_mem_literals {j : NumberKind} {c : Char} : c :: u ∈ j.literals ↔
    (c ∈ "0".toList ∧ u ∈ afterZeroForms j ∨
      c ∈ "123456789".toList ∧ u ∈ digit∗ * afterIntegerForms j) ∨
    c ∈ ".".toList ∧ u ∈ digit * (digit∗ * ending .decimal j) := by
  rw [literals_eq, Language.mem_add, Language.mem_add, cons_mem_oneOf_mul, cons_mem_oneOf_mul,
    cons_mem_oneOf_mul]

theorem zero_mem_literals (j : NumberKind) (u : Text) :
    '0' :: u ∈ j.literals ↔ u ∈ afterZeroForms j := by
  simp [cons_mem_literals]

theorem point_mem_literals (j : NumberKind) (u : Text) :
    '.' :: u ∈ j.literals ↔ u ∈ digit * (digit∗ * ending .decimal j) := by
  rw [cons_mem_literals]
  simp

theorem digit_free_afterIntegerForms (j : NumberKind) (c : Char) (hc : c ∈ "0123456789".toList)
    (u : Text) : c :: u ∉ afterIntegerForms j := by
  rw [cons_mem_afterIntegerForms, cons_mem_exponent]
  simp only [digit_free c hc, false_and, and_false, or_self, not_false_iff]

theorem isLongest_of_unsignedNumber? (h : unsignedNumber? t = some l) :
    l.IsLongest NumberKind.literals t := by
  cases t with
  | nil => cases h
  | cons c t =>
    simp only [unsignedNumber?] at h
    split at h
    · next hc =>
      subst hc
      split at h
      · cases h
      · next hne =>
        cases h
        obtain ⟨l, hl, heq⟩ := fraction_eq t
        have hplus := hl.plus isDigit_iff (digit_free_ending .decimal) (mt List.isEmpty_iff.2 hne)
        rw [heq]
        exact hplus.cons_cons fun j u => point_mem_literals j u
    split at h
    · next hc =>
      subst hc
      obtain ⟨m, hm, rfl⟩ := Option.map_eq_some_iff.1 h
      exact (isLongest_of_afterZero? hm).cons_cons fun j u => zero_mem_literals j u
    split at h
    · next hpoint hzero hdigit =>
      cases h
      have hc : c ∈ "123456789".toList := by
        have hmem := (isDigit_iff c).1 hdigit
        simpa [hzero] using hmem
      have hrun := (afterInteger_isLongest _).run isDigit_iff digit_free_afterIntegerForms (t := t)
      have hnot : c ∉ "0".toList ∧ c ∉ ".".toList := by simp [hzero, hpoint]
      refine hrun.cons_cons (c := c) fun j u => ?_
      rw [cons_mem_literals]
      simp only [hnot, hc, false_and, true_and, false_or, or_false]
    · cases h

theorem IsLongest.beginsWith (h : l.IsLongest forms t) : ∃ j, t.BeginsWith (forms j) := by
  obtain ⟨k, -, hmem⟩ := h.kind
  exact ⟨k, l.text, (hmem k).2 rfl, l.rest, h.split⟩

theorem unsignedNumber?_eq_none_iff : unsignedNumber? t = none ↔
    (∀ j : NumberKind, ¬ t.BeginsWith j.literals) ∨ ∃ u, t = '0' :: u ∧ RefusedAfterZero u := by
  constructor
  · intro h
    cases t with
    | nil => exact .inl fun j hj => nil_notMem_literals j (beginsWith_nil.1 hj)
    | cons c t =>
      simp only [unsignedNumber?] at h
      split at h
      · next hc =>
        subst hc
        split at h
        · next hnil =>
          refine .inl fun j => ?_
          rw [beginsWith_cons (nil_notMem_literals j) (point_mem_literals j)]
          exact mt BeginsWith.left
            ((splitWhile_fst_eq_nil_iff isDigit_iff).1 (List.isEmpty_iff.1 hnil))
        · cases h
      split at h
      · next hc =>
        subst hc
        exact .inr ⟨t, rfl, afterZero?_eq_none_iff.1 (Option.map_eq_none_iff.1 h)⟩
      split at h
      · cases h
      · next hpoint hzero hdigit =>
        refine .inl fun j => ?_
        rintro ⟨u, hu, hbegin⟩
        cases u with
        | nil => exact nil_notMem_literals j hu
        | cons d u =>
          obtain ⟨rfl, -⟩ := List.cons_prefix_cons.1 hbegin
          rw [isDigit_iff] at hdigit
          have hnot : d ∉ "0".toList ∧ d ∉ ".".toList := by simp [hzero, hpoint]
          have hfree : ∀ e ∈ "123456789".toList, e ∈ "0123456789".toList := by simp
          simp only [cons_mem_literals, hnot, mt (hfree d) hdigit, false_and, or_self] at hu
  · rintro (hnone | ⟨u, rfl, hrefused⟩)
    · cases h : unsignedNumber? t with
      | none => rfl
      | some l =>
        obtain ⟨j, hj⟩ := (isLongest_of_unsignedNumber? h).beginsWith
        exact absurd hj (hnone j)
    · simp [unsignedNumber?, afterZero?_eq_none_iff.2 hrefused]

theorem sign_free_literals (j : NumberKind) (c : Char) (hc : c ∈ "+-".toList) (u : Text) :
    c :: u ∉ j.literals := by
  have hfree : ∀ d ∈ "+-".toList, d ∉ "0".toList ∧ d ∉ "123456789".toList ∧ d ∉ ".".toList := by
    simp
  simp only [cons_mem_literals, hfree c hc, false_and, or_self, not_false_iff]

/-- With its sign, a literal is one of the numbers of its kind. -/
theorem mem_number_iff : u ∈ number ↔ ∃ j : NumberKind, u ∈ sign * j.literals := by
  simp only [number, mul_add, Language.mem_add]
  constructor
  · rintro (((h | h) | h) | h)
    · exact ⟨.hexadecimal, h⟩
    · exact ⟨.octal, h⟩
    · exact ⟨.decimal, h⟩
    · exact ⟨.integer, h⟩
  · rintro ⟨j, h⟩
    cases j with
    | hexadecimal => exact .inl (.inl (.inl h))
    | octal => exact .inl (.inl (.inr h))
    | decimal => exact .inl (.inr h)
    | integer => exact .inr h

theorem beginsWith_sign_mul_zero_mul {m : Language Char} :
    t.BeginsWith (sign * (oneOf "0" * m)) ↔
      ∃ u : Text, (splitSign t).2 = '0' :: u ∧ u.BeginsWith m := by
  have hfree : ∀ c ∈ "+-".toList, c ∉ "0".toList := by simp
  rw [beginsWith_sign_mul (fun c hc u hu => hfree c hc (cons_mem_oneOf_mul.1 hu).1)
    nil_notMem_oneOf_mul]
  cases (splitSign t).2 with
  | nil => simp
  | cons c u => simp

theorem refused_iff : Refused t ↔ ∃ u, (splitSign t).2 = '0' :: u ∧ RefusedAfterZero u := by
  simp only [Refused, mul_assoc, beginsWith_sign_mul_zero_mul, RefusedAfterZero]
  cases (splitSign t).2 with
  | nil => simp
  | cons c u =>
    by_cases hc : c = '0'
    · simp [hc]
    · simp [hc]

theorem beginsWith_number_iff :
    t.BeginsWith number ↔ ∃ j : NumberKind, (splitSign t).2.BeginsWith j.literals := by
  constructor
  · rintro ⟨u, hu, hbegin⟩
    obtain ⟨j, hj⟩ := mem_number_iff.1 hu
    refine ⟨j, ?_⟩
    rw [← beginsWith_sign_mul (sign_free_literals j) (nil_notMem_literals j)]
    exact ⟨u, hj, hbegin⟩
  · rintro ⟨j, hj⟩
    rw [← beginsWith_sign_mul (sign_free_literals j) (nil_notMem_literals j)] at hj
    obtain ⟨u, hu, hbegin⟩ := hj
    exact ⟨u, mem_number_iff.2 ⟨j, hu⟩, hbegin⟩

theorem number?_eq_none_iff : number? t = none ↔ ¬ t.BeginsWith number ∨ Refused t := by
  rw [number?, Option.map_eq_none_iff, unsignedNumber?_eq_none_iff, beginsWith_number_iff,
    not_exists, refused_iff]

theorem isLongest_of_number? (h : number? t = some l) :
    ∃ m : Literal, m.IsLongest NumberKind.literals (splitSign t).2 ∧ l = m.cons (splitSign t).1 ∧
      l.IsLongest (fun j => sign * j.literals) t := by
  obtain ⟨m, hm, rfl⟩ := Option.map_eq_some_iff.1 h
  have hlongest := isLongest_of_unsignedNumber? hm
  exact ⟨m, hlongest, rfl, hlongest.signed sign_free_literals⟩

theorem splitSign_mem_sign (t : Text) : (splitSign t).1 ∈ sign := by
  rw [sign, Language.mem_add, Language.mem_one]
  cases t with
  | nil => exact .inl rfl
  | cons c t =>
    by_cases hc : c ∈ "+-".toList
    · rw [splitSign_of_mem hc]
      exact .inr ⟨c, hc, rfl⟩
    · rw [splitSign_of_notMem hc]
      exact .inl rfl

end Text.Literal

open Numeral Text.Literal in
/-- The number scanner takes the longest number at the front of a text, and finds none exactly if
there is none or a leading zero is refused. The type of the token tells which of the literals stands
behind the sign, and it is a literal of one kind only. The cut is one between characters, and where
nothing is found the state is what it was. -/
theorem Scanner.number_is_longest_literal {ε : Type} (t : Text) :
    (Scanner.number.run t = none ↔ ¬ t.BeginsWith Numeral.number ∨ Refused t) ∧
    (∀ s : State ε, s.text = t → Scanner.number.run t = none → s.scan .number = (false, s)) ∧
    ∀ token rest, Scanner.number.run t = some (token, rest) →
      token.text ++ rest = t ∧
      t.splitBytes? token.text.byteSize = some (token.text, rest) ∧
      token.text ∈ Numeral.number ∧
      (∀ u ∈ Numeral.number, u <+: t → u.length ≤ token.text.length) ∧
      ∃ signed ∈ sign, ∃ literal, token.text = signed ++ literal ∧
        ∃ k : NumberKind, token.kind = some k.type ∧
          ∀ j : NumberKind, literal ∈ j.literals ↔ j = k := by
  refine ⟨?_, ?_, ?_⟩
  · rw [← number?_eq_none_iff]
    cases h : t.number? with
    | none => simp [Scanner.run, h]
    | some l => simp [Scanner.run, Scanner.token, h]
  · rintro s rfl h
    rw [State.scan, h]
    rfl
  · intro token rest h
    obtain ⟨l, hl, htoken⟩ := Option.bind_eq_some_iff.1 h
    obtain ⟨rfl, rfl⟩ := Prod.mk.inj (Option.some.inj htoken)
    obtain ⟨m, hm, rfl, hlongest⟩ := isLongest_of_number? hl
    obtain ⟨k, hk, hmem⟩ := hm.kind
    obtain ⟨k', -, hmem'⟩ := hlongest.kind
    have hcut := Text.splitBytes?_byteSize (m.cons t.splitSign.1).text (m.cons t.splitSign.1).rest
    rw [hlongest.split] at hcut
    refine ⟨hlongest.split, hcut, mem_number_iff.2 ⟨k', (hmem' k').2 rfl⟩, ?_, ?_⟩
    · intro u hu hbegin
      obtain ⟨j, hj⟩ := mem_number_iff.1 hu
      exact hlongest.length_le j u hj hbegin
    · exact ⟨_, splitSign_mem_sign t, m.text, rfl, k, congrArg some hk, hmem⟩

/-- An exponent without digits is left behind. -/
example : Scanner.number.run "-1.5e+x".toList
    = some (⟨some .codeNumberDecimal, "-1.5".toList⟩, "e+x".toList) := by
  decide

end ModalLexer
