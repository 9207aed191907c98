import ModalLexer.Proofs.Pattern.Locality.Basic

/-! # Numbers and escapes in front of a closing parenthesis

A brace at the end of the text, behind the escape of a word boundary, is the one exception: alone it
is the beginning of a name that is missing, and with the parenthesis it is no name at all.
-/

namespace ModalLexer.Pattern

variable {a b : Nat} {flags : Flags} {t : Text}

theorem readDigits_local (flags : Flags) (ha : t.length ≤ a) (hb : t.length < b) :
    Local t.length (.ok (readDigits flags a t)) (.ok (readDigits flags b (t ++ [')']))) := by
  refine Local.fueled (f := fun (_ : Unit) a t => .ok (readDigits flags a t)) flags ?_ ?_ ?_ ()
    ha hb
  · intro _ a
    cases a <;> rfl
  · exact fun _ b => .left [] [] (Nat.le_refl _)
  · intro _ a b c t hmore
    simp only [readDigits]
    split
    · exact ((hmore ()).map (c :: ·)).mono (Nat.le_succ _)
    · exact .left [] (c :: t) (Nat.le_refl _)

theorem readCount_local (flags : Flags) (t : Text) :
    Local t.length (readCount flags t) (readCount flags (t ++ [')'])) := by
  have hdigits := readDigits_local flags (t := t.dropWhile Unicode.isSpace) (Nat.le_refl _)
    (Nat.lt_succ_self _)
  have hcount := hdigits.bind (k := fun p =>
      if p.1.isEmpty ∨ maxNumber < decimalValue p.1 then .error .invalidCount
      else .ok (decimalValue p.1, skip flags (p.2.dropWhile Unicode.isSpace)))
    fun digits rest _ => by
      simp only [dropWhile_space_append]
      split
      · exact .error
      · exact (Local.blanks flags (fun u => .ok (decimalValue digits, u))
          (fun u => .ok (decimalValue digits, u)) rfl fun u _ => .left _ u (Nat.le_refl _)).mono
          (length_dropWhile_le _ rest)
  unfold readCount
  simp only [dropWhile_space_append, List.length_append, List.length_singleton]
  exact hcount.mono (length_dropWhile_le _ t)

theorem readHex_local (flags : Flags) (value n : Nat) (t : Text) :
    Local t.length (readHex flags value n t) (readHex flags value n (t ++ [')'])) := by
  induction n generalizing value t with
  | zero =>
    simp only [readHex]
    split
    · exact .left _ t (Nat.le_refl _)
    · exact .error
  | succ n ih =>
    cases t with
    | nil => exact .error
    | cons c t =>
      simp only [readHex, List.cons_append]
      split
      · exact (Local.blanks flags (readHex flags _ n) _ rfl fun u _ => ih _ u).mono (Nat.le_succ _)
      · exact .error

theorem readBracedHex_local (flags : Flags) (value : Option Nat) (ha : t.length ≤ a)
    (hb : t.length < b) :
    Local t.length (readBracedHex flags value a t) (readBracedHex flags value b (t ++ [')'])) := by
  refine Local.fueled (f := readBracedHex flags) flags ?_ ?_ ?_ value ha hb
  · intro _ a
    cases a <;> rfl
  · exact fun _ b => .error
  · intro value a b c t hmore
    simp only [readBracedHex]
    split
    · split
      · exact .left _ t (Nat.le_succ _)
      · exact .error
    · split
      · exact (hmore _).mono (Nat.le_succ _)
      · exact .error

theorem readBracedName_local (flags : Flags) (ha : t.length ≤ a) (hb : t.length < b) :
    Local t.length (readBracedName flags a t) (readBracedName flags b (t ++ [')'])) := by
  have hnil : ∀ a, readBracedName flags a [] = .error .invalidEscape := by
    intro a
    cases a <;> rfl
  refine Local.fueled (f := fun (_ : Unit) => readBracedName flags) flags ?_ ?_ ?_ () ha hb
  · exact fun _ a => hnil a
  · intro _ b
    simp only [readBracedName, skip_nil, hnil]
    exact .error
  · intro _ a b c t hmore
    simp only [readBracedName]
    split
    · exact .left _ t (Nat.le_succ _)
    · exact ((hmore ()).map (c :: ·)).mono (Nat.le_succ _)

theorem readProperty_local (flags : Flags) (negated : Bool) (t : Text) :
    Local t.length (readProperty flags negated t) (readProperty flags negated (t ++ [')'])) := by
  unfold readProperty
  cases t with
  | nil =>
    refine .failed .invalidEscape _ fun p rest h => ?_
    simp only [List.nil_append, pure_bind] at h
    split at h
    · next hc => exact absurd hc (by decide)
    split at h
    · cases h
    split at h
    · split at h
      · cases h
      · cases h; rfl
    · cases h
  | cons c t =>
    simp only [List.cons_append, pure_bind]
    split
    · have hname := Local.blanks (t := t) flags (readBracedName flags t.length)
        (readBracedName flags (t.length + 1)) (by cases t <;> simp [readBracedName])
        fun u hu => readBracedName_local flags hu (Nat.lt_succ_of_le hu)
      simp only [List.length_append, List.length_singleton]
      refine (hname.bind fun name rest _ => ?_).mono (Nat.le_succ _)
      dsimp only
      split
      · split
        · exact .error
        · exact .left _ rest (Nat.le_refl _)
      · exact .error
    · split
      · exact .error
      · split
        · split
          · exact .error
          · exact .left _ t (Nat.le_succ _)
        · exact .error

theorem readBoundaryName_local (flags : Flags) (ha : t.length ≤ a) (hb : t.length < b) :
    Local t.length (.ok (readBoundaryName flags a t))
      (.ok (readBoundaryName flags b (t ++ [')']))) := by
  refine Local.fueled (f := fun (_ : Unit) a t => .ok (readBoundaryName flags a t)) flags ?_ ?_ ?_
    () ha hb
  · intro _ a
    cases a <;> rfl
  · exact fun _ b => .left [] [] (Nat.le_refl _)
  · intro _ a b c t hmore
    simp only [readBoundaryName]
    split
    · exact ((hmore ()).map (c :: ·)).mono (Nat.le_succ _)
    · exact .left [] (c :: t) (Nat.le_refl _)

/-- The text begins with a brace that nothing but blanks follows. -/
def OpenBrace (flags : Flags) (t : Text) : Prop :=
  ∃ inner, t = '\x7b' :: inner ∧ skip flags inner = [] ∧ skip flags (inner ++ [')']) = [')']

/-- A brace in front of the parenthesis is taken for a repetition. -/
theorem OpenBrace.readBoundary (h : OpenBrace flags t) :
    readBoundary flags t = .error .invalidEscape ∧
      readBoundary flags (t ++ [')']) = .ok (.anchor (.boundary flags.unicode), t ++ [')']) := by
  obtain ⟨inner, rfl, h, h'⟩ := h
  simp only [Pattern.readBoundary, List.cons_append, h, h']
  exact ⟨rfl, rfl⟩

theorem readBoundary_local (flags : Flags) (t : Text) :
    Local t.length (readBoundary flags t) (readBoundary flags (t ++ [')'])) ∨
      OpenBrace flags t := by
  unfold readBoundary
  cases t with
  | nil => exact .inl (.left _ [] (Nat.le_refl _))
  | cons c inner =>
    simp only [List.cons_append]
    split
    · exact .inl (.left _ (c :: inner) (Nat.le_refl _))
    next hc =>
    rcases skip_append flags inner with h | ⟨h, h'⟩
    · rw [h]
      cases hskip : skip flags inner with
      | nil =>
        exact .inr ⟨inner, by rw [Decidable.not_not.1 hc], hskip, by rw [h, hskip]; rfl⟩
      | cons d inner' =>
        refine .inl ?_
        simp only [List.cons_append, List.length_append, List.length_singleton]
        have hlen : (d :: inner').length ≤ inner.length := hskip ▸ length_skip_le flags inner
        split
        · exact .left _ (c :: inner) (Nat.le_refl _)
        have hname := readBoundaryName_local flags (t := d :: inner')
          (Nat.le_refl _) (Nat.lt_succ_self _)
        obtain ⟨name, rest, h, hle, h' | ⟨rfl, h'⟩⟩ := hname.ok_cases
        · simp only [List.length_cons, List.cons_append] at h h' ⊢
          rw [h, h']
          cases rest with
          | nil => exact .error
          | cons e rest =>
            simp only [List.cons_append]
            split
            · exact .error
            · have hle : rest.length ≤ inner.length + 1 := by simp at hle hlen; omega
              split
              · exact .left _ rest hle
              · exact .left _ rest hle
              · exact .left _ rest hle
              · exact .left _ rest hle
              · exact .error
        · simp only [List.length_cons, List.cons_append] at h h' ⊢
          rw [h, h']
          exact .error
    · rw [h, h']
      exact .inl .error

/-- Reads a code point in braces or with the number of digits that the letter in front tells. -/
def readCode (flags : Flags) (letter : Char) (t : Text) :
    Except PatternError (Primitive × Text) := do
  if t.head? = some '\x7b' then
    let (c, rest) ← readBracedHex flags none t.length (skip flags t.tail)
    return (.literal c, rest)
  else
    let (d, rest) ← readHex flags 0 (if letter = 'x' then 2 else if letter = 'u' then 4 else 8) t
    if letter = 'x' ∧ !flags.unicode ∧ 128 ≤ d.toNat then throw .partOfCharacter
    return (.literal d, rest)

theorem readCode_local (flags : Flags) (letter : Char) (t : Text) :
    Local t.length (readCode flags letter t) (readCode flags letter (t ++ [')'])) := by
  simp only [readCode, head?_append_paren (show '\x7b' ≠ ')' by decide)]
  split
  · next hhead =>
    obtain ⟨u, rfl⟩ : ∃ u, t = '\x7b' :: u := by
      cases t with
      | nil => cases hhead
      | cons c u => cases hhead; exact ⟨u, rfl⟩
    simp only [List.cons_append, List.tail_cons, List.length_cons, List.length_append]
    have hhex := Local.blanks (t := u) flags (readBracedHex flags none (u.length + 1))
      (readBracedHex flags none (u.length + 0 + 1 + 1)) rfl fun w hw =>
      readBracedHex_local flags none (Nat.le_succ_of_le hw) (by omega)
    exact (hhex.map Primitive.literal).mono (Nat.le_succ _)
  · refine (readHex_local flags 0 _ t).bind fun d rest _ => ?_
    dsimp only
    split
    · exact .error
    · exact .left _ rest (Nat.le_refl _)

theorem readEscape_local (flags : Flags) (t : Text) :
    Local t.length (readEscape flags t) (readEscape flags (t ++ [')'])) ∨
      ∃ u, t = 'b' :: u ∧ OpenBrace flags u := by
  cases t with
  | nil =>
    have hparen : readEscape flags [')'] = .ok (.literal ')', []) := rfl
    refine .inl (.failed .invalidEscape _ fun a rest h => ?_)
    rw [List.nil_append, hparen] at h
    cases h
    rfl
  | cons c t =>
    simp only [readEscape, List.cons_append]
    split
    · exact .inl (.left _ t (Nat.le_succ _))
    split
    · cases flags.admit (flags.letterClass c.toLower).compl with
      | error e => exact .inl .error
      | ok s => exact .inl (.left _ t (Nat.le_succ _))
    split
    · have hcode := Local.blanks (t := t) flags (readCode flags c) _ rfl
        fun u _ => readCode_local flags c u
      exact .inl (hcode.mono (Nat.le_succ _))
    split
    · have hproperty := Local.blanks (t := t) flags (readProperty flags (c = 'P')) _ rfl
        fun u _ => readProperty_local flags _ u
      exact .inl (hproperty.mono (Nat.le_succ _))
    split
    · exact .inl (.left _ t (Nat.le_succ _))
    split
    all_goals try exact .inl (.left _ t (Nat.le_succ _))
    · rcases readBoundary_local flags t with h | h
      · exact .inl (h.mono (Nat.le_succ _))
      · exact .inr ⟨t, rfl, h⟩
    · exact .inl .error

end ModalLexer.Pattern
