import ModalLexer.Pattern.Basic

/-! # Reading in front of a closing parenthesis

What is read from a text does not depend on whether a closing parenthesis follows it, unless the
parenthesis gets into what is read.
-/

namespace ModalLexer.Pattern

/-- How a text is read alone, and with a closing parenthesis behind it. At most `n` of its
characters are left. -/
inductive Local {α : Type} (n : Nat) :
    Except PatternError (α × Text) → Except PatternError (α × Text) → Prop
  /-- The parenthesis is left as well. -/
  | left (a : α) (rest : Text) (h : rest.length ≤ n) :
    Local n (.ok (a, rest)) (.ok (a, rest ++ [')']))
  /-- The parenthesis is passed over, as a part of a comment. -/
  | passed (a : α) : Local n (.ok (a, [])) (.ok (a, []))
  /-- Alone the text cannot be read, and with the parenthesis it is read up to the end at most. -/
  | failed (e : PatternError) (y : Except PatternError (α × Text))
    (h : ∀ a rest, y = .ok (a, rest) → rest = []) : Local n (.error e) y

variable {α β : Type} {n m a b : Nat} {x y : Except PatternError (α × Text)} {flags : Flags}
  {t : Text}

namespace Local

theorem mono (h : Local n x y) (hle : n ≤ m) : Local m x y := by
  cases h with
  | left a rest h => exact .left a rest (Nat.le_trans h hle)
  | passed a => exact .passed a
  | failed e y h => exact .failed e y h

theorem error {e e' : PatternError} :
    Local n (.error e : Except PatternError (α × Text)) (.error e') :=
  .failed e _ fun _ _ h => by cases h

theorem length_le (h : Local n x y) {a : α} {rest : Text} (hx : x = .ok (a, rest)) :
    rest.length ≤ n := by
  cases h with
  | left _ _ h => cases hx; exact h
  | passed => cases hx; exact Nat.zero_le n
  | failed => cases hx

/-- Behind the whole text nothing is left. -/
theorem eq_nil (h : Local 0 x y) {a : α} {rest : Text} (hx : x = .ok (a, rest)) : rest = [] :=
  List.eq_nil_of_length_eq_zero (Nat.le_zero.1 (h.length_le hx))

theorem eq_nil_of_error {e : PatternError} (h : Local n (.error e) y) {a : α} {rest : Text}
    (hy : y = .ok (a, rest)) : rest = [] := by
  cases h with
  | failed _ _ h => exact h a rest hy

/-- Both readings are behind the whole text. -/
theorem atEnd (h : Local 0 x y) : Local n x x := by
  cases hx : x with
  | error e => exact .error
  | ok p =>
    obtain ⟨a, rest⟩ := p
    obtain rfl := h.eq_nil hx
    exact .passed a

theorem bind {k : α × Text → Except PatternError (β × Text)} (h : Local n x y)
    (hk : ∀ a rest, rest.length ≤ n →
      Local rest.length (k (a, rest)) (k (a, rest ++ [')']))) :
    Local n (x >>= k) (y >>= k) := by
  cases h with
  | left a rest h => exact (hk a rest h).mono h
  | passed a => exact (hk a [] (Nat.zero_le n)).atEnd
  | failed e y h =>
    refine .failed e _ fun b rest hb => ?_
    obtain ⟨⟨a, rest'⟩, ha, hb⟩ : ∃ p, y = .ok p ∧ k p = .ok (b, rest) := by
      cases y with
      | error e => cases hb
      | ok p => exact ⟨p, rfl, hb⟩
    obtain rfl := h a rest' ha
    exact (hk a [] (Nat.zero_le n)).eq_nil hb

/-- The value changes, but not the text that is left. -/
theorem map (f : α → β) (h : Local n x y) :
    Local n (x >>= fun p => .ok (f p.1, p.2)) (y >>= fun p => .ok (f p.1, p.2)) :=
  h.bind fun a rest _ => .left (f a) rest (Nat.le_refl _)

theorem ok_cases {p q : α × Text} (h : Local n (.ok p) (.ok q)) :
    ∃ a rest, p = (a, rest) ∧ rest.length ≤ n ∧
      (q = (a, rest ++ [')']) ∨ rest = [] ∧ q = (a, [])) := by
  cases h with
  | left a rest h => exact ⟨a, rest, rfl, h, .inl rfl⟩
  | passed a => exact ⟨a, [], rfl, Nat.zero_le n, .inr ⟨rfl, rfl⟩⟩

end Local

/-- What does not come from the text leaves all of it. -/
theorem Local.value (x : Except PatternError β) (f : β → α) (t : Text) :
    Local t.length (x >>= fun b => .ok (f b, t)) (x >>= fun b => .ok (f b, t ++ [')'])) := by
  cases x with
  | error e => exact .error
  | ok b => exact .left (f b) t (Nat.le_refl _)

theorem length_skipBlanks_le (inComment : Bool) (t : Text) :
    (skipBlanks inComment t).length ≤ t.length := by
  fun_induction skipBlanks inComment t with
  | case1 => simp
  | case2 _ _ ih | case3 _ _ _ _ _ ih | case4 _ _ _ _ ih => exact Nat.le_trans ih (Nat.le_succ _)
  | case5 => exact Nat.le_refl _

theorem skipBlanks_append (inComment : Bool) (t : Text) :
    skipBlanks inComment (t ++ [')']) = skipBlanks inComment t ++ [')'] ∨
      skipBlanks inComment t = [] ∧ skipBlanks inComment (t ++ [')']) = [] := by
  fun_induction skipBlanks inComment t with
  | case1 inComment =>
    cases inComment with
    | false => exact .inl (by decide)
    | true => exact .inr (by decide)
  | case2 | case3 | case4 | case5 => simp_all [skipBlanks]

theorem length_skip_le (flags : Flags) (t : Text) : (skip flags t).length ≤ t.length := by
  unfold skip
  split
  · exact length_skipBlanks_le false t
  · exact Nat.le_refl _

theorem skip_append (flags : Flags) (t : Text) :
    skip flags (t ++ [')']) = skip flags t ++ [')'] ∨
      skip flags t = [] ∧ skip flags (t ++ [')']) = [] := by
  unfold skip
  split
  · exact skipBlanks_append false t
  · exact .inl rfl

@[simp] theorem skip_nil (flags : Flags) : skip flags [] = [] := by
  unfold skip
  split <;> rfl

/-- Reading goes on behind blanks. -/
theorem Local.blanks (flags : Flags) (k k' : Text → Except PatternError (α × Text))
    (hnil : k [] = k' [])
    (hk : ∀ u, u.length ≤ t.length → Local u.length (k u) (k' (u ++ [')']))) :
    Local t.length (k (skip flags t)) (k' (skip flags (t ++ [')']))) := by
  rcases skip_append flags t with h | ⟨h, h'⟩
  · rw [h]
    exact (hk _ (length_skip_le flags t)).mono (length_skip_le flags t)
  · rw [h, h', ← hnil]
    exact (hk [] (Nat.zero_le _)).atEnd

/-- A reader goes through a text character by character, dropping blanks between them, and has more
fuel than characters. It is local if it is so at the end of the text and for one character. -/
theorem Local.fueled {ι : Type} {f : ι → Nat → Text → Except PatternError (α × Text)}
    (flags : Flags)
    (hnil : ∀ i a, f i a [] = f i 0 []) (hend : ∀ i b, Local 0 (f i 0 []) (f i (b + 1) [')']))
    (hcons : ∀ i a b c t,
      (∀ i, Local t.length (f i a (skip flags t)) (f i b (skip flags (t ++ [')'])))) →
        Local (t.length + 1) (f i (a + 1) (c :: t)) (f i (b + 1) (c :: (t ++ [')']))))
    (i : ι) (ha : t.length ≤ a) (hb : t.length < b) :
    Local t.length (f i a t) (f i b (t ++ [')'])) := by
  induction a generalizing b t i with
  | zero =>
    obtain rfl := List.eq_nil_of_length_eq_zero (Nat.le_zero.1 ha)
    obtain ⟨b, rfl⟩ := Nat.exists_eq_add_one_of_ne_zero (Nat.ne_of_gt hb)
    exact hend i b
  | succ a ih =>
    obtain ⟨b, rfl⟩ := Nat.exists_eq_add_one_of_ne_zero (Nat.ne_zero_of_lt hb)
    cases t with
    | nil =>
      rw [hnil i (a + 1)]
      exact hend i b
    | cons c t =>
      simp only [List.length_cons, Nat.add_le_add_iff_right, Nat.add_lt_add_iff_right] at ha hb
      refine hcons i a b c t fun i => .blanks flags (f i a) (f i b) ?_ fun u hu =>
        ih i (Nat.le_trans hu ha) (Nat.lt_of_le_of_lt hu hb)
      rw [hnil i a, hnil i b]

theorem head?_append_paren {c : Char} (hc : c ≠ ')') (t : Text) :
    (t ++ [')']).head? = some c ↔ t.head? = some c := by
  cases t with
  | nil => simpa using hc.symm
  | cons d t => simp

theorem tail_append_paren {c : Char} (h : t.head? = some c) :
    (t ++ [')']).tail = t.tail ++ [')'] := by
  cases t with
  | nil => cases h
  | cons d t => rfl

theorem length_tail_le (t : Text) : t.tail.length ≤ t.length := by
  rw [List.length_tail]
  exact Nat.sub_le _ _

theorem length_le_of_take {w : Text} (h : t.take n = w) (hw : w.length = n) : n ≤ t.length := by
  rw [← h, List.length_take] at hw
  omega

/-- A text that does not end in the parenthesis is in front of it or not at all. -/
theorem take_append_paren {w : Text} (hw : w.getLast? ≠ some ')') (t : Text) :
    (t ++ [')']).take w.length = w ↔ t.take w.length = w := by
  rcases Nat.lt_or_ge t.length w.length with hlt | hle
  · refine iff_of_false (fun h => hw ?_) fun h => ?_
    · rw [← h, List.take_of_length_le (by simp; omega)]
      simp
    · rw [List.take_of_length_le (Nat.le_of_lt hlt)] at h
      exact absurd (congrArg List.length h) (Nat.ne_of_lt hlt)
  · rw [List.take_append_of_le_length hle]

/-- What is in front of a separator, and the separator, if there is one in front of the
parenthesis. -/
theorem span_append_paren {c : Char} (hc : c ≠ ')') (t : Text) :
    t.dropWhile (· ≠ c) ≠ [] ∧ (t ++ [')']).takeWhile (· ≠ c) = t.takeWhile (· ≠ c) ∧
        (t ++ [')']).dropWhile (· ≠ c) = t.dropWhile (· ≠ c) ++ [')'] ∨
      t.dropWhile (· ≠ c) = [] ∧ (t ++ [')']).dropWhile (· ≠ c) = [] := by
  induction t with
  | nil => exact .inr (by simp [hc.symm])
  | cons d t ih =>
    by_cases hd : d = c
    · exact .inl (by simp [hd])
    · simpa [hd] using ih

theorem length_dropWhile_le (p : Char → Bool) (t : Text) : (t.dropWhile p).length ≤ t.length :=
  (List.dropWhile_sublist p).length_le

theorem dropWhile_space_append (t : Text) :
    (t ++ [')']).dropWhile Unicode.isSpace = t.dropWhile Unicode.isSpace ++ [')'] := by
  induction t with
  | nil => decide
  | cons c t ih =>
    simp only [List.cons_append, List.dropWhile_cons]
    split
    · exact ih
    · rfl

end ModalLexer.Pattern
