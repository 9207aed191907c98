import Mathlib.Computability.Language
import ModalLexer.Scanner.Number

/-! # The grammar of number literals

The literals of each kind are a regular language. A literal is read one character at a time: what
may follow a character is a language again, one for each kind, and the longest word of these gives
the longest literal.
-/

open scoped Computability

namespace ModalLexer

/-- The words of one character out of those given. -/
def oneOf (chars : String) : Language Char := {u | ∃ c ∈ chars.toList, u = [c]}

/-- A word of the language stands at the front of the text. -/
def Text.BeginsWith (t : Text) (l : Language Char) : Prop := ∃ u ∈ l, u <+: t

namespace Text

variable {l m after : Language Char} {c : Char} {t : Text}

/-- On the words at the front of a text, languages agree if they do so behind its first character.
-/
theorem mem_iff_of_prefix_cons {u : Text} (h : u <+: c :: t) (hnil : [] ∈ l ↔ [] ∈ m)
    (hcons : ∀ v, c :: v ∈ l ↔ c :: v ∈ m) : u ∈ l ↔ u ∈ m := by
  cases u with
  | nil => exact hnil
  | cons d u =>
    obtain ⟨rfl, -⟩ := List.cons_prefix_cons.1 h
    exact hcons u

theorem beginsWith_congr (h : ∀ u, u <+: t → (u ∈ l ↔ u ∈ m)) :
    t.BeginsWith l ↔ t.BeginsWith m := by
  constructor
  · rintro ⟨u, hu, hbegin⟩
    exact ⟨u, (h u hbegin).1 hu, hbegin⟩
  · rintro ⟨u, hu, hbegin⟩
    exact ⟨u, (h u hbegin).2 hu, hbegin⟩

theorem beginsWith_nil : BeginsWith [] l ↔ [] ∈ l := by
  constructor
  · rintro ⟨u, hu, hbegin⟩
    rwa [List.prefix_nil.1 hbegin] at hu
  · intro h
    exact ⟨[], h, List.nil_prefix⟩

theorem beginsWith_cons (hnil : [] ∉ l) (hstep : ∀ u, c :: u ∈ l ↔ u ∈ after) :
    BeginsWith (c :: t) l ↔ t.BeginsWith after := by
  constructor
  · rintro ⟨u, hu, hbegin⟩
    cases u with
    | nil => exact absurd hu hnil
    | cons d u =>
      obtain ⟨rfl, htail⟩ := List.cons_prefix_cons.1 hbegin
      exact ⟨u, (hstep u).1 hu, htail⟩
  · rintro ⟨u, hu, hbegin⟩
    exact ⟨c :: u, (hstep u).2 hu, List.cons_prefix_cons.2 ⟨rfl, hbegin⟩⟩

end Text

section Words

variable {chars : String} {l m : Language Char} {c : Char} {u : Text}

@[simp] theorem nil_notMem_oneOf_mul : [] ∉ oneOf chars * l := by
  rintro ⟨_, ⟨c, -, rfl⟩, v, -, h⟩
  cases h

@[simp] theorem cons_mem_oneOf_mul : c :: u ∈ oneOf chars * l ↔ c ∈ chars.toList ∧ u ∈ l := by
  constructor
  · rintro ⟨_, ⟨d, hd, rfl⟩, v, hv, h⟩
    obtain ⟨rfl, rfl⟩ := List.cons.inj h
    exact ⟨hd, hv⟩
  · rintro ⟨hc, hu⟩
    exact ⟨[c], ⟨c, hc, rfl⟩, u, hu, rfl⟩

theorem kstar_mul_eq (l m : Language Char) : l∗ * m = m + l * (l∗ * m) := by
  conv_lhs => rw [← Language.one_add_self_mul_kstar_eq_kstar l, add_mul, one_mul, mul_assoc]

@[simp] theorem nil_mem_kstar_oneOf_mul : [] ∈ (oneOf chars)∗ * m ↔ [] ∈ m := by
  rw [kstar_mul_eq, Language.mem_add]
  simp

theorem cons_mem_kstar_oneOf_mul : c :: u ∈ (oneOf chars)∗ * m ↔
    c :: u ∈ m ∨ c ∈ chars.toList ∧ u ∈ (oneOf chars)∗ * m := by
  rw [kstar_mul_eq, Language.mem_add, cons_mem_oneOf_mul, ← kstar_mul_eq]

/-- A word of one language and one of the other begin a text if the first begins it and the second
what stands behind; in particular the first begins it. -/
theorem Text.BeginsWith.left {t : Text} (h : t.BeginsWith (l * m)) : t.BeginsWith l := by
  obtain ⟨_, ⟨u, hu, v, -, rfl⟩, hbegin⟩ := h
  exact ⟨u, hu, (List.prefix_append u v).trans hbegin⟩

@[simp] theorem not_beginsWith_nil_oneOf_mul : ¬ Text.BeginsWith [] (oneOf chars * m) :=
  mt Text.beginsWith_nil.1 nil_notMem_oneOf_mul

@[simp] theorem beginsWith_cons_oneOf_mul {t : Text} :
    Text.BeginsWith (c :: t) (oneOf chars * m) ↔ c ∈ chars.toList ∧ t.BeginsWith m := by
  by_cases hc : c ∈ chars.toList
  · have hstep : ∀ u, c :: u ∈ oneOf chars * m ↔ u ∈ m := by simp [hc]
    rw [Text.beginsWith_cons nil_notMem_oneOf_mul hstep]
    exact (and_iff_right hc).symm
  · refine iff_of_false ?_ fun h => hc h.1
    rintro ⟨u, hu, hbegin⟩
    rw [Text.mem_iff_of_prefix_cons (m := 0) hbegin (by simp [Language.notMem_zero])
      (by simp [hc, Language.notMem_zero])] at hu
    exact Language.notMem_zero u hu

@[simp] theorem beginsWith_one (t : Text) : t.BeginsWith 1 :=
  ⟨[], (Language.mem_one []).2 rfl, List.nil_prefix⟩

@[simp] theorem not_beginsWith_nil_oneOf : ¬ Text.BeginsWith [] (oneOf chars) := by
  rw [← mul_one (oneOf chars)]
  exact not_beginsWith_nil_oneOf_mul

@[simp] theorem beginsWith_cons_oneOf {t : Text} :
    Text.BeginsWith (c :: t) (oneOf chars) ↔ c ∈ chars.toList := by
  rw [← mul_one (oneOf chars), beginsWith_cons_oneOf_mul]
  simp

end Words

namespace Numeral

abbrev digit : Language Char := oneOf "0123456789"

abbrev hexDigit : Language Char := oneOf "0123456789abcdefABCDEF"

abbrev octalDigit : Language Char := oneOf "01234567"

/-- A sign, or nothing. -/
def sign : Language Char := 1 + oneOf "+-"

def integer : Language Char := oneOf "0" + oneOf "123456789" * digit∗

def exponent : Language Char := oneOf "eE" * sign * (digit * digit∗)

def decimal : Language Char :=
  integer * oneOf "." * digit∗ * (1 + exponent) + integer * exponent
    + oneOf "." * (digit * digit∗) * (1 + exponent)

def octal : Language Char := oneOf "0" * (octalDigit * octalDigit∗)

def hexadecimal : Language Char := oneOf "0" * oneOf "xX" * (hexDigit * hexDigit∗)

/-- A literal with its sign. -/
def number : Language Char := sign * (hexadecimal + octal + decimal + integer)

/-- A leading zero that starts no literal, as 8 or 9 stands behind it, or an `x` without a digit. -/
def Refused (t : Text) : Prop :=
  t.BeginsWith (sign * oneOf "0" * oneOf "89") ∨
    t.BeginsWith (sign * oneOf "0" * oneOf "xX") ∧
      ¬ t.BeginsWith (sign * oneOf "0" * oneOf "xX" * hexDigit)

end Numeral

inductive NumberKind where
  | hexadecimal
  | octal
  | decimal
  | integer
deriving DecidableEq

namespace NumberKind

def type : NumberKind → TokenType
  | hexadecimal => .codeNumberHexadecimal
  | octal => .codeNumberOctal
  | decimal => .codeNumberDecimal
  | integer => .codeNumberInteger

/-- The literals of the kind, without their signs. -/
def literals : NumberKind → Language Char
  | hexadecimal => Numeral.hexadecimal
  | octal => Numeral.octal
  | decimal => Numeral.decimal
  | integer => Numeral.integer

/-- The words of a language as literals of one kind. -/
def only (k : NumberKind) (l : Language Char) (j : NumberKind) : Language Char :=
  if j = k then l else 0

variable {j k : NumberKind} {l m : Language Char} {u : Text}

@[simp] theorem mem_only : u ∈ only k l j ↔ j = k ∧ u ∈ l := by
  by_cases h : j = k <;> simp [only, h, Language.notMem_zero]

theorem only_self (k : NumberKind) (l : Language Char) : only k l k = l := if_pos rfl

theorem only_of_ne (h : j ≠ k) (l : Language Char) : only k l j = 0 := if_neg h

theorem mul_only (l m : Language Char) (j k : NumberKind) :
    l * only k m j = only k (l * m) j := by
  rw [only, only, mul_ite, mul_zero]

end NumberKind

namespace Text.Literal

/-- The literal is the longest word of the languages at the front of the text, and only the language
of its kind has it. -/
structure IsLongest (l : Literal) (forms : NumberKind → Language Char) (t : Text) : Prop where
  split : l.text ++ l.rest = t
  kind : ∃ k : NumberKind, l.kind = k.type ∧ ∀ j, l.text ∈ forms j ↔ j = k
  length_le : ∀ j, ∀ u ∈ forms j, u <+: t → u.length ≤ l.text.length

variable {l : Literal} {forms forms' after : NumberKind → Language Char} {t : Text} {c : Char}
  {chars : String} {p : Char → Bool}

theorem IsLongest.congr (h : l.IsLongest forms' t)
    (hagree : ∀ j u, u <+: t → (u ∈ forms j ↔ u ∈ forms' j)) : l.IsLongest forms t where
  split := h.split
  kind := by
    obtain ⟨k, hk, hmem⟩ := h.kind
    exact ⟨k, hk, fun j => (hagree j _ ⟨l.rest, h.split⟩).trans (hmem j)⟩
  length_le := fun j u hu hbegin => h.length_le j u ((hagree j u hbegin).1 hu) hbegin

/-- What may follow a character is a language for each kind again. -/
theorem IsLongest.cons_cons (h : l.IsLongest after t)
    (hstep : ∀ j u, c :: u ∈ forms j ↔ u ∈ after j) : (l.cons [c]).IsLongest forms (c :: t) where
  split := congrArg (List.cons c) h.split
  kind := by
    obtain ⟨k, hk, hmem⟩ := h.kind
    exact ⟨k, hk, fun j => (hstep j _).trans (hmem j)⟩
  length_le := by
    intro j u hu hbegin
    cases u with
    | nil => exact Nat.zero_le _
    | cons d u =>
      obtain ⟨rfl, htail⟩ := List.cons_prefix_cons.1 hbegin
      exact Nat.succ_le_succ (h.length_le j u ((hstep j u).1 hu) htail)

/-- Whether the empty word is in the languages does not matter once there is a longer one. -/
theorem IsLongest.of_ne_nil (h : l.IsLongest forms' t) (hne : l.text ≠ [])
    (hagree : ∀ j c u, c :: u ∈ forms j ↔ c :: u ∈ forms' j) : l.IsLongest forms t where
  split := h.split
  kind := by
    obtain ⟨k, hk, hmem⟩ := h.kind
    obtain ⟨c, u, hu⟩ := List.exists_cons_of_ne_nil hne
    refine ⟨k, hk, fun j => ?_⟩
    rw [← hmem j, hu, hagree]
  length_le := by
    intro j u hu hbegin
    cases u with
    | nil => exact Nat.zero_le _
    | cons c u => exact h.length_le j (c :: u) ((hagree j c u).1 hu) hbegin

theorem isLongest_nil {k : NumberKind} (hnil : ∀ j, [] ∈ forms j ↔ j = k)
    (hcons : ∀ j, ∀ u ∈ forms j, u <+: t → u = []) :
    (⟨k.type, [], t⟩ : Literal).IsLongest forms t where
  split := rfl
  kind := ⟨k, rfl, hnil⟩
  length_le := fun j u hu hbegin => by rw [hcons j u hu hbegin]

/-- A run of characters that begin none of the words is read to its end. -/
theorem IsLongest.run (hchars : ∀ c, p c = true ↔ c ∈ chars.toList)
    (hfree : ∀ j, ∀ c ∈ chars.toList, ∀ u, c :: u ∉ forms j)
    (h : l.IsLongest forms (splitWhile p t).2) :
    (l.cons (splitWhile p t).1).IsLongest (fun j => (oneOf chars)∗ * forms j) t := by
  induction t with
  | nil =>
    refine h.congr fun j u hbegin => ?_
    rw [List.prefix_nil.1 hbegin, nil_mem_kstar_oneOf_mul]
  | cons c t ih =>
    by_cases hc : p c = true
    · simp only [splitWhile, hc, if_true] at h ⊢
      have hmem := (hchars c).1 hc
      refine (ih h).cons_cons fun j u => cons_mem_kstar_oneOf_mul.trans ?_
      exact ⟨fun hu => (hu.resolve_left (hfree j c hmem u)).2, fun hu => .inr ⟨hmem, hu⟩⟩
    · simp only [splitWhile, hc] at h ⊢
      refine h.congr fun j u hbegin =>
        mem_iff_of_prefix_cons hbegin nil_mem_kstar_oneOf_mul fun v => ?_
      exact cons_mem_kstar_oneOf_mul.trans (or_iff_left fun hv => hc ((hchars c).2 hv.1))

theorem IsLongest.plus (hchars : ∀ c, p c = true ↔ c ∈ chars.toList)
    (hfree : ∀ j, ∀ c ∈ chars.toList, ∀ u, c :: u ∉ forms j)
    (h : l.IsLongest forms (splitWhile p t).2) (hne : (splitWhile p t).1 ≠ []) :
    (l.cons (splitWhile p t).1).IsLongest
      (fun j => oneOf chars * ((oneOf chars)∗ * forms j)) t := by
  cases t with
  | nil => exact absurd rfl hne
  | cons c t =>
    by_cases hc : p c = true
    · simp only [splitWhile, hc, if_true] at h ⊢
      exact (h.run hchars hfree).cons_cons fun j u => by simp [(hchars c).1 hc]
    · simp [splitWhile, hc] at hne

theorem splitWhile_fst_eq_nil_iff (hchars : ∀ c, p c = true ↔ c ∈ chars.toList) :
    (splitWhile p t).1 = [] ↔ ¬ t.BeginsWith (oneOf chars) := by
  cases t with
  | nil => simp [splitWhile]
  | cons c t => by_cases hc : p c = true <;> simp [splitWhile, hc, ← hchars c]

end Text.Literal

end ModalLexer
