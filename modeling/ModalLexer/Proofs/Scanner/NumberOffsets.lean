import ModalLexer.Proofs.Scanner.Offsets

/-! # Numbers by offsets

The number scanner goes through a text by its grammar, and by offsets it goes through the bytes. In
both forms it takes the same branches, since a byte on which it decides is the first one of a
character.
-/

namespace ModalLexer

open Text (IsAscii Agree Literal)

/-- The first byte of a character. -/
def Text.lead (c : Char) : UInt8 := (String.utf8EncodeChar c).headD 0

namespace Bytes

variable {b : Bytes} {i : Nat} {c d : Char} {t u v : Text} {p : UInt8 → Bool} {q : Char → Bool}

/-- The text `t` is behind offset `i`. -/
def At (b : Bytes) (i : Nat) (t : Text) : Prop := b.drop i = t.bytes

theorem at_zero (t : Text) : At t.bytes 0 t := rfl

theorem At.append (h : At b i (u ++ v)) : At b (i + u.byteSize) v := by
  rw [At, Text.bytes_append] at h
  rw [At, ← List.drop_drop, h, ← Text.length_bytes, List.drop_left]

theorem At.behind (h : At b i (c :: t)) (hc : IsAscii c) : At b (i + 1) t := by
  have hsize : Text.byteSize [c] = 1 := Text.utf8Size_of_isAscii hc
  exact hsize ▸ At.append (u := [c]) h

theorem At.get_nil (h : At b i []) : b[i]? = none := by
  rw [← List.head?_drop, h]
  rfl

theorem At.get_cons (h : At b i (c :: t)) : b[i]? = some (Text.lead c) := by
  obtain ⟨first, more, hbytes⟩ :=
    List.exists_cons_of_ne_nil (String.utf8EncodeChar_ne_nil (c := c))
  rw [← List.head?_drop, h, Text.bytes_cons, Text.lead, hbytes]
  rfl

theorem lead_agree (h : Agree p q) (c : Char) : p (Text.lead c) = q c := by
  obtain ⟨first, more, hbytes⟩ :=
    List.exists_cons_of_ne_nil (String.utf8EncodeChar_ne_nil (c := c))
  refine h c _ ?_
  simp [Text.lead, hbytes]

theorem lead_eq_iff (hd : IsAscii d) : Text.lead c = d.toUInt8 ↔ c = d := by
  simpa using lead_agree (Text.agree_eq hd) c

theorem agree_isOctalDigit : Agree isOctalDigit Text.isOctalDigit :=
  Text.agree_between (by decide) (by decide)

theorem agree_isHexDigit : Agree isHexDigit Text.isHexDigit :=
  (Text.agree_isDigit.or (Text.agree_between (by decide) (by decide))).or
    (Text.agree_between (by decide) (by decide))

theorem isAscii_of_le (h : c ≤ d) (hd : IsAscii d) : IsAscii c := Nat.lt_of_le_of_lt h hd

theorem isAscii_of_isDigit (h : c.isDigit = true) : IsAscii c :=
  isAscii_of_le (d := '9') (of_decide_eq_true (Bool.and_eq_true_iff.1 h).2) (by decide)

theorem isAscii_of_isOctalDigit (h : Text.isOctalDigit c = true) : IsAscii c :=
  isAscii_of_le (d := '7') (of_decide_eq_true (Bool.and_eq_true_iff.1 h).2) (by decide)

theorem skip_eq (p : UInt8 → Bool) (b : Bytes) (i : Nat) :
    skip p b i = i + ((b.drop i).takeWhile p).length := by
  fun_induction skip p b i with
  | case1 i hi hp ih =>
    rw [ih, List.drop_eq_getElem_cons hi, List.takeWhile_cons_of_pos hp, List.length_cons]
    omega
  | case2 i hi hp => rw [List.drop_eq_getElem_cons hi, List.takeWhile_cons_of_neg hp]; rfl
  | case3 i hi => rw [List.drop_eq_nil_of_le (Nat.not_lt.1 hi)]; rfl

theorem skip_of_at (h : At b i t) (hagree : Agree p q) :
    skip p b i = i + (Text.splitWhile q t).1.byteSize := by
  rw [skip_eq, h, Text.takeWhile_bytes hagree, Text.length_bytes]

theorem At.behind_skip (h : At b i t) (hagree : Agree p q) :
    At b (skip p b i) (Text.splitWhile q t).2 := by
  rw [skip_of_at h hagree]
  exact At.append (by rwa [Text.splitWhile_append])

theorem signEnd_of_at (h : At b i t) : signEnd b i = i + (Text.splitSign t).1.byteSize := by
  cases t with
  | nil => simp [signEnd, h.get_nil, Text.splitSign]
  | cons c t =>
    have hsign : b[i]? = some '+'.toUInt8 ∨ b[i]? = some '-'.toUInt8 ↔ c = '+' ∨ c = '-' := by
      rw [h.get_cons, Option.some_inj, Option.some_inj, lead_eq_iff (by decide),
        lead_eq_iff (by decide)]
    simp only [signEnd, hsign, Text.splitSign]
    split
    · next hc =>
      have hascii : IsAscii c := by rcases hc with rfl | rfl <;> decide
      rw [Text.byteSize_cons, Text.utf8Size_of_isAscii hascii]
      rfl
    · rfl

theorem At.behind_sign (h : At b i t) : At b (signEnd b i) (Text.splitSign t).2 := by
  rw [signEnd_of_at h]
  exact At.append (by rwa [Text.splitSign_append])

/-- The bit that is set tells the cases of a letter apart. -/
theorem or_eq_iff (b : UInt8) :
    b ||| 0x20 = 'e'.toUInt8 ↔ b = 'e'.toUInt8 ∨ b = 'E'.toUInt8 := by
  have hall : ∀ n : Fin 256, (UInt8.ofNat n ||| 0x20 = 'e'.toUInt8 ↔
      UInt8.ofNat n = 'e'.toUInt8 ∨ UInt8.ofNat n = 'E'.toUInt8) := by
    decide +kernel
  have hb := hall ⟨b.toNat, b.toNat_lt⟩
  rwa [UInt8.ofNat_toNat] at hb

theorem isEmpty_splitWhile (hc : q c = true) : (Text.splitWhile q (c :: t)).1.isEmpty = false := by
  rw [Text.splitWhile, if_pos hc]
  rfl

theorem splitWhile_of_neg (hc : ¬ q c = true) : Text.splitWhile q (c :: t) = ([], c :: t) := by
  rw [Text.splitWhile, if_neg hc]

theorem exponentEnd?_of_at (h : At b i t) :
    exponentEnd? b i = (Text.exponent? t).map fun e => i + e.1.byteSize := by
  cases t with
  | nil => simp [exponentEnd?, h.get_nil, Text.exponent?]
  | cons e t =>
    simp only [exponentEnd?, h.get_cons, Text.exponent?, or_eq_iff,
      lead_eq_iff (d := 'e') (by decide), lead_eq_iff (d := 'E') (by decide), Option.bind_eq_bind,
      Option.bind_some]
    split
    · next he =>
      have hascii : IsAscii e := by rcases he with rfl | rfl <;> decide
      have hsign := (h.behind hascii).behind_sign
      generalize hparts : Text.splitSign t = parts at hsign
      obtain ⟨sign, rest⟩ := parts
      have hend := signEnd_of_at (h.behind hascii)
      rw [hparts] at hend
      simp only at *
      cases rest with
      | nil => simp [hsign.get_nil, Text.splitWhile]
      | cons d rest =>
        simp only [hsign.get_cons, Option.bind_some, lead_agree Text.agree_isDigit]
        split
        · next hd =>
          rw [isEmpty_splitWhile hd, skip_of_at hsign Text.agree_isDigit, hend]
          simp [Text.utf8Size_of_isAscii hascii, Nat.add_assoc]
        · next hd =>
          rw [splitWhile_of_neg hd]
          rfl
    · rfl

/-- The type and the end of a literal that begins at offset `i`. -/
def endFrom (i : Nat) (l : Literal) : TokenType × Nat := (l.kind, i + l.text.byteSize)

theorem endFrom_cons (i : Nat) (u : Text) (l : Literal) :
    endFrom i (l.cons u) = endFrom (i + u.byteSize) l := by
  simp [endFrom, Text.Literal.cons, Nat.add_assoc]

theorem endFrom_cons_ascii (i : Nat) (hc : IsAscii c) (l : Literal) :
    endFrom i (l.cons [c]) = endFrom (i + 1) l := by
  rw [endFrom_cons, Text.byteSize_cons, Text.utf8Size_of_isAscii hc]
  rfl

theorem integerOrExponent_of_at (h : At b i t) :
    integerOrExponent b i = endFrom i (Text.integerOrExponent t) := by
  simp only [integerOrExponent, Text.integerOrExponent, exponentEnd?_of_at h]
  cases Text.exponent? t <;> rfl

theorem decimal_of_at (h : At b i t) : decimal b i = endFrom i (Text.fraction t) := by
  simp only [decimal, Text.fraction, exponentEnd?_of_at (h.behind_skip Text.agree_isDigit)]
  rw [skip_of_at h Text.agree_isDigit]
  cases Text.exponent? (Text.splitWhile Char.isDigit t).2 <;> simp [endFrom, Nat.add_assoc]

/-- The first digit of a fraction may be skipped before the others. -/
theorem decimal_succ (hd : b[i]? = some (Text.lead d)) (hdigit : isDigit (Text.lead d) = true) :
    decimal b (i + 1) = decimal b i := by
  obtain ⟨hi, hget⟩ := List.getElem?_eq_some_iff.1 hd
  have hskip : skip isDigit b i = skip isDigit b (i + 1) := by
    rw [skip, dif_pos hi, hget, if_pos hdigit]
  simp only [decimal, hskip]

theorem afterInteger_of_at (h : At b i t) :
    (if b[i]? = some '.'.toUInt8 then decimal b (i + 1) else integerOrExponent b i) =
      endFrom i (Text.afterInteger t) := by
  cases t with
  | nil =>
    rw [h.get_nil, if_neg (by simp), integerOrExponent_of_at h]
    rfl
  | cons c t =>
    simp only [h.get_cons, Option.some_inj, lead_eq_iff (d := '.') (by decide), Text.afterInteger]
    split
    · next hc =>
      subst hc
      rw [endFrom_cons_ascii i (by decide), decimal_of_at (h.behind (by decide))]
    · exact integerOrExponent_of_at h

theorem afterZero?_of_at (h : At b i t) :
    afterZero? b i = (Text.afterZero? t).map (endFrom i) := by
  cases t with
  | nil => simp [afterZero?, h.get_nil, Text.afterZero?, endFrom]
  | cons c t =>
    have hinteger := afterInteger_of_at h
    simp only [h.get_cons, Option.some_inj, lead_eq_iff (d := '.') (by decide)] at hinteger
    simp only [afterZero?, h.get_cons, Text.afterZero?, lead_agree agree_isOctalDigit,
      lead_eq_iff (d := 'x') (by decide), lead_eq_iff (d := 'X') (by decide),
      lead_eq_iff (d := '.') (by decide), lead_eq_iff (d := '8') (by decide),
      lead_eq_iff (d := '9') (by decide)]
    split
    · next hc =>
      have hascii : IsAscii c := isAscii_of_isOctalDigit hc
      rw [skip_of_at (h.behind hascii) agree_isOctalDigit]
      simp [endFrom, Text.utf8Size_of_isAscii hascii, Nat.add_assoc]
    split
    · next hc =>
      have hascii : IsAscii c := by rcases hc with rfl | rfl <;> decide
      have hdigits := h.behind hascii
      cases t with
      | nil => simp [hdigits.get_nil, Text.splitWhile]
      | cons d t =>
        simp only [hdigits.get_cons, Option.bind_eq_bind, Option.bind_some,
          lead_agree agree_isHexDigit]
        split
        · next hd =>
          rw [isEmpty_splitWhile hd, skip_of_at hdigits agree_isHexDigit]
          simp [endFrom, Text.utf8Size_of_isAscii hascii, Nat.add_assoc]
        · next hd =>
          rw [splitWhile_of_neg hd]
          rfl
    · by_cases hpoint : c = '.'
      · subst hpoint
        rw [if_pos rfl] at hinteger ⊢
        rw [if_neg (by decide), hinteger, Option.map_some]
      · rw [if_neg hpoint] at hinteger ⊢
        split
        · rfl
        · rw [hinteger, Option.map_some]

theorem unsignedNumber?_of_at (h : At b i t) :
    unsignedNumber? b i = (Text.unsignedNumber? t).map (endFrom i) := by
  cases t with
  | nil => simp [unsignedNumber?, h.get_nil, Text.unsignedNumber?]
  | cons c t =>
    simp only [unsignedNumber?, h.get_cons, Text.unsignedNumber?, lead_agree Text.agree_isDigit,
      lead_eq_iff (d := '.') (by decide), lead_eq_iff (d := '0') (by decide), Option.bind_eq_bind,
      Option.bind_some]
    split
    · next hc =>
      subst hc
      have hdigits := h.behind (by decide)
      cases t with
      | nil => simp [hdigits.get_nil, Text.splitWhile]
      | cons d t =>
        simp only [hdigits.get_cons, Option.bind_some, lead_agree Text.agree_isDigit]
        split
        · next hd =>
          have hlead : isDigit (Text.lead d) = true := (lead_agree Text.agree_isDigit d).trans hd
          rw [isEmpty_splitWhile hd, decimal_succ hdigits.get_cons hlead, decimal_of_at hdigits]
          simp [endFrom_cons_ascii i (show IsAscii '.' by decide)]
        · next hd =>
          rw [splitWhile_of_neg hd]
          rfl
    by_cases hc : c = '0'
    · subst hc
      rw [if_pos (by decide), if_pos rfl, if_pos rfl, afterZero?_of_at (h.behind (by decide)),
        Option.map_map]
      exact Option.map_congr fun l _ => (endFrom_cons_ascii i (by decide) l).symm
    · rw [if_neg hc, if_neg hc]
      split
      · next hd =>
        have hascii := isAscii_of_isDigit hd
        have hstop := afterInteger_of_at ((h.behind hascii).behind_skip Text.agree_isDigit)
        have hend := skip_of_at (h.behind hascii) Text.agree_isDigit
        rw [← apply_ite some, hstop, hend, Option.map_some, endFrom_cons, Text.byteSize_cons,
          Text.utf8Size_of_isAscii hascii, Nat.add_assoc]
      · rfl

theorem number?_bytes (t : Text) : number? t.bytes = t.number?.map (endFrom 0) := by
  have h := at_zero t
  rw [number?, unsignedNumber?_of_at h.behind_sign, Text.number?, Option.map_map,
    signEnd_of_at h]
  exact Option.map_congr fun l _ => (endFrom_cons _ _ l).symm

end Bytes

end ModalLexer
