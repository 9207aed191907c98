import ModalLexer.Scanner.Offset

/-! # Characters among bytes

An ASCII character is one byte in UTF-8, and the bytes of all other characters lie above. So an
ASCII byte in the form of a text is a character of the text, and a cut on either side of it is not
inside a character.
-/

namespace ModalLexer.Text

open String (utf8EncodeChar)

variable {c d : Char} {b : UInt8} {i n : Nat} {t u v w x y : Text} {front back : Bytes}

@[simp] theorem bytes_nil : bytes [] = [] := rfl

@[simp] theorem bytes_cons : bytes (c :: t) = utf8EncodeChar c ++ bytes t := rfl

@[simp] theorem bytes_append : bytes (u ++ v) = bytes u ++ bytes v := List.flatMap_append

@[simp] theorem length_bytes : (bytes t).length = t.byteSize := by
  induction t with
  | nil => rfl
  | cons c t ih => simp [ih]

theorem eq_nil_of_bytes (h : bytes t = []) : t = [] := by
  cases t with
  | nil => rfl
  | cons c t =>
    rw [bytes_cons, List.append_eq_nil_iff] at h
    exact absurd h.1 String.utf8EncodeChar_ne_nil

/-- The characters of one byte. -/
def IsAscii (c : Char) : Prop := c.toNat < 128

instance : Decidable (IsAscii c) := inferInstanceAs (Decidable (c.toNat < 128))

theorem utf8EncodeChar_of_isAscii (h : IsAscii c) : utf8EncodeChar c = [c.toUInt8] := by
  have hval : c.val.toNat ≤ 127 := Nat.le_of_lt_succ h
  simp only [utf8EncodeChar, if_pos hval]
  rfl

theorem utf8Size_of_isAscii (h : IsAscii c) : c.utf8Size = 1 := by
  rw [← String.length_utf8EncodeChar, utf8EncodeChar_of_isAscii h, List.length_singleton]

theorem toNat_toUInt8 (h : IsAscii c) : c.toUInt8.toNat = c.toNat := by
  have hval : c.val.toNat < 128 := h
  simp only [Char.toUInt8, UInt32.toNat_toUInt8, Char.toNat]
  omega

theorem toUInt8_inj (hc : IsAscii c) (hd : IsAscii d) : c.toUInt8 = d.toUInt8 ↔ c = d := by
  rw [← UInt8.toNat_inj, toNat_toUInt8 hc, toNat_toUInt8 hd, Char.toNat_inj]

theorem le_of_mem_utf8EncodeChar (hc : ¬ IsAscii c) (hb : b ∈ utf8EncodeChar c) :
    128 ≤ b.toNat := by
  have hval : ¬ c.val.toNat ≤ 127 := fun h => hc (Nat.lt_succ_of_le h)
  have hbyte : ∀ m, 128 ≤ m → m < 256 → 128 ≤ (UInt8.ofNat m).toNat := by
    intro m hle hlt
    rwa [UInt8.toNat_ofNat', Nat.mod_eq_of_lt hlt]
  simp only [utf8EncodeChar, if_neg hval] at hb
  split at hb
  · simp only [List.mem_cons, List.not_mem_nil, or_false] at hb
    rcases hb with rfl | rfl <;> exact hbyte _ (by omega) (by omega)
  split at hb
  · simp only [List.mem_cons, List.not_mem_nil, or_false] at hb
    rcases hb with rfl | rfl | rfl <;> exact hbyte _ (by omega) (by omega)
  · simp only [List.mem_cons, List.not_mem_nil, or_false] at hb
    rcases hb with rfl | rfl | rfl | rfl <;> exact hbyte _ (by omega) (by omega)

theorem eq_of_mem_utf8EncodeChar (hc : IsAscii c) (h : c.toUInt8 ∈ utf8EncodeChar d) : d = c := by
  by_cases hd : IsAscii d
  · rw [utf8EncodeChar_of_isAscii hd, List.mem_singleton] at h
    exact ((toUInt8_inj hc hd).1 h).symm
  · have hle := le_of_mem_utf8EncodeChar hd h
    rw [toNat_toUInt8 hc] at hle
    exact absurd hc (Nat.not_lt.2 hle)

theorem toNat_of_mem_utf8EncodeChar (hb : b ∈ utf8EncodeChar c) :
    b.toNat = c.toNat ∨ 128 ≤ b.toNat ∧ 128 ≤ c.toNat := by
  by_cases hc : IsAscii c
  · rw [utf8EncodeChar_of_isAscii hc, List.mem_singleton] at hb
    exact .inl (hb ▸ toNat_toUInt8 hc)
  · exact .inr ⟨le_of_mem_utf8EncodeChar hc hb, Nat.not_lt.1 hc⟩

/-- An ASCII byte stands for its character. -/
theorem exists_of_bytes_eq (hc : IsAscii c) (h : bytes t = front ++ c.toUInt8 :: back) :
    ∃ u v, t = u ++ c :: v ∧ bytes u = front ∧ bytes v = back := by
  induction t generalizing front with
  | nil => simp at h
  | cons d t ih =>
    rw [bytes_cons, List.append_eq_append_iff] at h
    rcases h with ⟨more, rfl, ht⟩ | ⟨more, hd, hmore⟩
    · obtain ⟨u, v, rfl, rfl, rfl⟩ := ih ht
      exact ⟨d :: u, v, rfl, rfl, rfl⟩
    · cases more with
      | nil =>
        rw [List.append_nil] at hd
        obtain ⟨u, v, rfl, hu, rfl⟩ := @ih [] hmore.symm
        obtain rfl := eq_nil_of_bytes hu
        exact ⟨[d], v, rfl, by simpa using hd, rfl⟩
      | cons first more =>
        -- The byte is one of those of `d`, which then has no other.
        obtain ⟨rfl, rfl⟩ := List.cons.inj hmore
        obtain rfl := eq_of_mem_utf8EncodeChar hc (d := d) (by simp [hd])
        rw [utf8EncodeChar_of_isAscii hc, List.singleton_eq_append_iff] at hd
        obtain ⟨rfl, hmore⟩ | ⟨-, hmore⟩ := hd
        · obtain rfl := (List.cons.inj hmore).2
          exact ⟨[], t, rfl, rfl, rfl⟩
        · cases hmore

theorem exists_of_bytes_eq_append (hw : ∀ c ∈ w, IsAscii c) (h : bytes t = bytes w ++ back) :
    ∃ v, t = w ++ v ∧ bytes v = back := by
  induction w generalizing t with
  | nil => exact ⟨t, rfl, h⟩
  | cons c w ih =>
    obtain ⟨hc, hw⟩ := List.forall_mem_cons.1 hw
    rw [bytes_cons, utf8EncodeChar_of_isAscii hc, List.append_assoc] at h
    obtain ⟨u, v, rfl, hu, hv⟩ := exists_of_bytes_eq hc (show bytes t = [] ++ _ from h)
    obtain rfl := eq_nil_of_bytes hu
    obtain ⟨y, rfl, hy⟩ := ih hw hv
    exact ⟨y, rfl, hy⟩

/-- A word of ASCII characters ends at an offset of the bytes where it ends in the text. -/
theorem suffix_take_iff (hw : ∀ c ∈ w, IsAscii c) (hne : w ≠ []) (hn : n ≤ t.byteSize) :
    bytes w <:+ (bytes t).take n ↔ ∃ u v, t = u ++ w ++ v ∧ byteSize (u ++ w) = n := by
  constructor
  · rintro ⟨front, hfront⟩
    obtain ⟨c, w, rfl⟩ := List.exists_cons_of_ne_nil hne
    obtain ⟨hc, hw⟩ := List.forall_mem_cons.1 hw
    have ht : bytes t = front ++ c.toUInt8 :: (bytes w ++ (bytes t).drop n) :=
      calc bytes t
          = (bytes t).take n ++ (bytes t).drop n := (List.take_append_drop n _).symm
        _ = front ++ c.toUInt8 :: (bytes w ++ (bytes t).drop n) := by
          rw [← hfront]
          simp [utf8EncodeChar_of_isAscii hc]
    obtain ⟨u, v, rfl, hu, hv⟩ := exists_of_bytes_eq hc ht
    obtain ⟨y, rfl, -⟩ := exists_of_bytes_eq_append hw hv
    refine ⟨u, y, by simp, ?_⟩
    have hlength := congrArg List.length hfront
    rw [List.length_take_of_le (by rwa [length_bytes]), ← hu, ← bytes_append] at hlength
    exact length_bytes ▸ hlength
  · rintro ⟨u, v, rfl, rfl⟩
    rw [bytes_append, ← length_bytes, List.take_left, bytes_append]
    exact List.suffix_append _ _

theorem getElem?_bytes_eq_some_iff (hc : IsAscii c) :
    (bytes t)[i]? = some c.toUInt8 ↔ ∃ u v, t = u ++ c :: v ∧ u.byteSize = i := by
  constructor
  · intro h
    obtain ⟨hi, hget⟩ := List.getElem?_eq_some_iff.1 h
    have ht : bytes t = (bytes t).take i ++ c.toUInt8 :: (bytes t).drop (i + 1) := by
      rw [← hget, List.getElem_cons_drop, List.take_append_drop]
    obtain ⟨u, v, rfl, hu, -⟩ := exists_of_bytes_eq hc ht
    refine ⟨u, v, rfl, ?_⟩
    rw [← length_bytes, hu, List.length_take_of_le (Nat.le_of_lt hi)]
  · rintro ⟨u, v, rfl, rfl⟩
    simp [← length_bytes, utf8EncodeChar_of_isAscii hc]

/-- The bytes of a character are in the class `p` if the character is in the class `q`, and else
none of them is. -/
def Agree (p : UInt8 → Bool) (q : Char → Bool) : Prop := ∀ c, ∀ b ∈ utf8EncodeChar c, p b = q c

variable {p p' : UInt8 → Bool} {q q' : Char → Bool}

theorem agree_eq (hc : IsAscii c) : Agree (· = c.toUInt8) (· = c) := by
  intro d b hb
  by_cases hd : d = c
  · subst hd
    rw [utf8EncodeChar_of_isAscii hc, List.mem_singleton] at hb
    simp [hb]
  · have hne : b ≠ c.toUInt8 := fun h => hd (eq_of_mem_utf8EncodeChar hc (h ▸ hb))
    simp [hd, hne]

theorem agree_le (hc : IsAscii c) : Agree (· ≤ c.toUInt8) (· ≤ c) := by
  intro d b hb
  have hsame : b.toNat ≤ c.toNat ↔ d ≤ c := by
    have hlt : c.toNat < 128 := hc
    show _ ↔ d.toNat ≤ c.toNat
    rcases toNat_of_mem_utf8EncodeChar hb with hb | ⟨hb, hd⟩ <;> omega
  simp only [UInt8.le_iff_toNat_le, toNat_toUInt8 hc, hsame]

theorem agree_ge (hc : IsAscii c) : Agree (c.toUInt8 ≤ ·) (c ≤ ·) := by
  intro d b hb
  have hsame : c.toNat ≤ b.toNat ↔ c ≤ d := by
    have hlt : c.toNat < 128 := hc
    show _ ↔ c.toNat ≤ d.toNat
    rcases toNat_of_mem_utf8EncodeChar hb with hb | ⟨hb, hd⟩ <;> omega
  simp only [UInt8.le_iff_toNat_le, toNat_toUInt8 hc, hsame]

theorem agree_between (hc : IsAscii c) (hd : IsAscii d) :
    Agree (fun b => c.toUInt8 ≤ b && b ≤ d.toUInt8) (fun e => c ≤ e && e ≤ d) :=
  fun e b hb => by simp only [agree_ge hc e b hb, agree_le hd e b hb]

theorem Agree.or (h : Agree p q) (h' : Agree p' q') :
    Agree (fun b => p b || p' b) (fun c => q c || q' c) :=
  fun c b hb => by simp only [h c b hb, h' c b hb]

theorem Agree.and (h : Agree p q) (h' : Agree p' q') :
    Agree (fun b => p b && p' b) (fun c => q c && q' c) :=
  fun c b hb => by simp only [h c b hb, h' c b hb]

theorem Agree.not (h : Agree p q) : Agree (!p ·) (!q ·) :=
  fun c b hb => by simp only [h c b hb]

theorem takeWhile_bytes (h : Agree p q) (t : Text) :
    (bytes t).takeWhile p = bytes (splitWhile q t).1 := by
  fun_induction splitWhile q t with
  | case1 => rfl
  | case2 c t hc head tail heq ih =>
    rw [heq] at ih
    rw [bytes_cons, List.takeWhile_append_of_pos fun b hb => (h c b hb).trans hc, ih, bytes_cons]
  | case3 c t hc =>
    obtain ⟨b, more, hbytes⟩ := List.exists_cons_of_ne_nil (String.utf8EncodeChar_ne_nil (c := c))
    have hb : ¬ p b = true := by rwa [h c b (by simp [hbytes])]
    rw [bytes_cons, hbytes, List.cons_append, List.takeWhile_cons_of_neg hb, bytes_nil]

theorem le_byteSize_splitCovering (n : Nat) (t : Text) :
    min n t.byteSize ≤ (splitCovering n t).1.byteSize := by
  fun_induction splitCovering n t with
  | case1 => simp
  | case2 => simp
  | case3 n c t head tail heq ih =>
    rw [heq] at ih
    simp only [byteSize_cons] at ih ⊢
    omega

/-- What ends at or behind offset `n` begins with the characters that begin before it. -/
theorem splitCovering_of_le (h : t = x ++ y) (hn : n ≤ x.byteSize) :
    ∃ x', x = (splitCovering n t).1 ++ x' ∧ (splitCovering n t).2 = x' ++ y := by
  fun_induction splitCovering n t generalizing x with
  | case1 => exact ⟨x, rfl, h⟩
  | case2 =>
    obtain ⟨rfl, -⟩ := List.append_eq_nil_iff.1 h.symm
    exact absurd hn (by simp)
  | case3 n c t head tail heq ih =>
    rw [heq] at ih
    cases x with
    | nil => exact absurd hn (by simp)
    | cons d x =>
      obtain ⟨rfl, ht⟩ := List.cons.inj h
      obtain ⟨x', rfl, htail⟩ := ih ht (by simp only [byteSize_cons] at hn; omega)
      exact ⟨x', rfl, htail⟩

end ModalLexer.Text
