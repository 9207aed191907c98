import ModalLexer.CharSet

/-! # The members of character sets

The sets of single characters have the expected members, and so have the complements of sets whose
ranges ascend.
-/

namespace ModalLexer.CharSet

variable {c d : Char} {s : CharSet} {cs : List Char}

theorem toNat_inj : c.toNat = d.toNat ↔ c = d :=
  ⟨fun h => Char.ext (UInt32.toNat_inj.1 h), fun h => by rw [h]⟩

@[simp] theorem contains_single : (single d).contains c = decide (c = d) := by
  simp only [contains, single, range, inRanges, ← toNat_inj (c := c)]
  by_cases h : c.toNat = d.toNat
  · simp [h]
  · simp only [h, decide_false]
    split
    · rfl
    · simp; omega

theorem ascending_foldl {α : Type} (f : α → Nat × Nat) (hf : ∀ a, (f a).1 ≤ (f a).2) (as : List α)
    {rs : List (Nat × Nat)} (h : Ascending 0 rs) :
    Ascending 0 (as.foldl (fun all a => insertRange (f a).1 (f a).2 all) rs) := by
  induction as generalizing rs with
  | nil => exact h
  | cons a as ih => exact ih (h.insertRange (Nat.zero_le _) (hf a))

theorem inRanges_foldl {α : Type} (f : α → Nat × Nat) (hf : ∀ a, (f a).1 ≤ (f a).2) (as : List α)
    {rs : List (Nat × Nat)} (h : Ascending 0 rs) (n : Nat) :
    inRanges n (as.foldl (fun all a => insertRange (f a).1 (f a).2 all) rs)
      = (as.any (fun a => decide ((f a).1 ≤ n ∧ n ≤ (f a).2)) || inRanges n rs) := by
  induction as generalizing rs with
  | nil => simp
  | cons a as ih =>
    rw [List.foldl_cons, ih (h.insertRange (Nat.zero_le _) (hf a)), inRanges_insertRange h (hf a),
      List.any_cons, ← Bool.or_assoc, Bool.or_comm (List.any _ _)]

theorem ascending_ofChars (cs : List Char) : Ascending 0 (ofChars cs).ranges := by
  simp only [ofChars, ofRanges, List.foldl_map]
  exact ascending_foldl (fun c : Char => (c.toNat, c.toNat)) (fun _ => Nat.le_refl _) cs trivial

@[simp] theorem contains_ofChars : (ofChars cs).contains c = decide (c ∈ cs) := by
  have h := inRanges_foldl (fun d : Char => (d.toNat, d.toNat)) (fun _ => Nat.le_refl _) cs
    (show Ascending 0 [] from trivial) c.toNat
  simp only [contains, ofChars, ofRanges, List.foldl_map]
  rw [h, Bool.eq_iff_iff]
  simp only [inRanges, Bool.or_false, List.any_eq_true, decide_eq_true_eq]
  constructor
  · rintro ⟨d, hd, hle, hge⟩
    rwa [toNat_inj.1 (Nat.le_antisymm hge hle)]
  · exact fun hc => ⟨c, hc, Nat.le_refl _, Nat.le_refl _⟩

/-- Gaps hold the code points of characters from `low` on that lie in no range. -/
theorem inRanges_gaps {n low least : Nat} {rs : List (Nat × Nat)}
    (hn : n < 0xd800 ∨ 0xdfff < n ∧ n ≤ 0x10ffff) (h : Ascending least rs)
    (hlow : low ≤ least ∨ low = 0xe000 ∧ 0xd7ff < least) :
    inRanges n (gaps low rs) = (decide (low ≤ n) && !inRanges n rs) := by
  induction rs generalizing low least with
  | nil =>
    simp only [gaps]
    split
    · simp only [inRanges]
      split <;> simp <;> omega
    · simp [inRanges]; omega
  | cons r rest ih =>
    obtain ⟨a, b⟩ := r
    obtain ⟨ha, hab, hrest⟩ := h
    have hmore : inRanges n (gaps (nextCode b) rest)
        = (decide (nextCode b ≤ n) && !inRanges n rest) :=
      ih hrest (by simp only [nextCode]; split <;> omega)
    have hnext : nextCode b ≤ n ↔ b < n := by simp only [nextCode]; split <;> omega
    have hmember : inRanges n rest = true → b < n := fun hn => by
      have := hrest.le_of_inRanges hn
      omega
    rw [inRanges_cons fun hn => by have := hmember hn; omega]
    simp only [gaps]
    split
    · next hlt =>
      have hprev : n ≤ prevCode a ↔ n < a := by simp only [prevCode]; split <;> omega
      rw [inRanges_cons fun hn => by rw [hmore] at hn; simp [hnext] at hn; omega, hmore,
        Bool.eq_iff_iff]
      simp only [hprev, hnext, Bool.or_eq_true, Bool.and_eq_true, Bool.not_eq_true',
        decide_eq_true_eq, Bool.or_eq_false_iff, decide_eq_false_iff_not]
      cases hr : inRanges n rest with
      | false => simp; omega
      | true => have := hmember hr; simp; omega
    · next hge =>
      rw [hmore, Bool.eq_iff_iff]
      simp only [hnext, Bool.and_eq_true, Bool.not_eq_true', decide_eq_true_eq,
        Bool.or_eq_false_iff, decide_eq_false_iff_not]
      cases hr : inRanges n rest with
      | false => simp; omega
      | true => simp

theorem contains_compl (h : Ascending 0 s.ranges) : s.compl.contains c = !s.contains c := by
  have hvalid : c.toNat < 0xd800 ∨ 0xdfff < c.toNat ∧ c.toNat ≤ 0x10ffff := by
    have := c.valid
    simp only [UInt32.isValidChar, Nat.isValidChar] at this
    have hval : c.val.toNat = c.toNat := rfl
    omega
  simpa [contains, compl] using inRanges_gaps hvalid h (.inl (Nat.le_refl 0))

@[simp] theorem contains_compl_ofChars : (ofChars cs).compl.contains c = decide (c ∉ cs) := by
  rw [contains_compl (ascending_ofChars cs), contains_ofChars, decide_not]

@[simp] theorem contains_any : any.contains c = true := by
  have := c.valid
  simp only [UInt32.isValidChar, Nat.isValidChar] at this
  have hval : c.val.toNat = c.toNat := rfl
  simp [contains, any, inRanges]
  omega

end ModalLexer.CharSet
