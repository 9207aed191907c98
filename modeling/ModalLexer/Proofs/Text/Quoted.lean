import ModalLexer.Text.Quoted

/-! # Quoted texts are told apart

Each character is written between the quotes so that the one written first can be read off whatever
stands behind it, and the closing quote begins no such form. So a quoted text ends where it says it
does, and no two texts are quoted alike. A quoted text also stays on its line.
-/

namespace ModalLexer.Text

/-- What is written for the members of `p` can be read one behind another: the first one and the
text behind it are determined, and `stop` begins none of them. -/
structure Decodable {α : Type} (p : α → Prop) (write : α → Text) (stop : Char) : Prop where
  inj : ∀ {a b : α} {u v : Text}, p a → p b → write a ++ u = write b ++ v → a = b ∧ u = v
  ne_stop : ∀ {a : α} {u v : Text}, write a ++ u ≠ stop :: v

/-- A sequence of members is determined with what stands behind its end. -/
theorem Decodable.flatMap_inj {α : Type} {p : α → Prop} {write : α → Text} {stop : Char}
    (h : Decodable p write stop) {as bs : List α} {u v : Text} (has : ∀ a ∈ as, p a)
    (hbs : ∀ b ∈ bs, p b)
    (heq : as.flatMap write ++ stop :: u = bs.flatMap write ++ stop :: v) : as = bs ∧ u = v := by
  induction as generalizing bs with
  | nil =>
    cases bs with
    | nil => exact ⟨rfl, (List.cons.inj heq).2⟩
    | cons b bs =>
      rw [List.flatMap_cons, List.append_assoc] at heq
      exact absurd heq.symm h.ne_stop
  | cons a as ih =>
    cases bs with
    | nil =>
      rw [List.flatMap_cons, List.append_assoc] at heq
      exact absurd heq h.ne_stop
    | cons b bs =>
      rw [List.flatMap_cons, List.flatMap_cons, List.append_assoc, List.append_assoc] at heq
      have has' := List.forall_mem_cons.1 has
      have hbs' := List.forall_mem_cons.1 hbs
      obtain ⟨rfl, hrest⟩ := h.inj has'.1 hbs'.1 heq
      obtain ⟨rfl, rfl⟩ := ih has'.2 hbs'.2 hrest
      exact ⟨rfl, rfl⟩

/-- The first occurrence of a character splits a text in one way only. -/
theorem append_cons_inj {c : Char} {s t u v : Text} (hs : c ∉ s) (ht : c ∉ t)
    (h : s ++ c :: u = t ++ c :: v) : s = t ∧ u = v := by
  obtain ⟨gap, rfl, hrest⟩ | ⟨gap, rfl, hrest⟩ := List.append_eq_append_iff.1 h
  · cases gap with
    | nil => exact ⟨(List.append_nil s).symm, (List.cons.inj hrest).2⟩
    | cons d gap =>
      obtain ⟨rfl, -⟩ := List.cons.inj hrest
      exact absurd (List.mem_append_right s (List.mem_cons_self ..)) ht
  · cases gap with
    | nil => exact ⟨List.append_nil t, (List.cons.inj hrest).2.symm⟩
    | cons d gap =>
      obtain ⟨rfl, -⟩ := List.cons.inj hrest
      exact absurd (List.mem_append_right t (List.mem_cons_self ..)) hs

theorem digitChar_inj {m n : Nat} (hm : m < 16) (hn : n < 16)
    (h : Nat.digitChar m = Nat.digitChar n) : m = n := by
  have hvalue := congrArg hexValue? h
  rw [hexValue?_digitChar hm, hexValue?_digitChar hn] at hvalue
  exact Option.some.inj hvalue

theorem hexDigits_of_lt {n : Nat} (h : n < 16) : hexDigits n = [Nat.digitChar n] :=
  Nat.toDigits_of_lt_base h

theorem hexDigits_of_le {n : Nat} (h : 16 ≤ n) :
    hexDigits n = hexDigits (n / 16) ++ [Nat.digitChar (n % 16)] :=
  Nat.toDigits_of_base_le (by omega) h

theorem hexDigits_ne_nil (n : Nat) : hexDigits n ≠ [] := Nat.toDigits_ne_nil

theorem hexDigits_inj {m n : Nat} (h : hexDigits m = hexDigits n) : m = n := by
  induction m using Nat.strongRecOn generalizing n with
  | ind m ih =>
    rcases Nat.lt_or_ge m 16 with hm | hm <;> rcases Nat.lt_or_ge n 16 with hn | hn
    · rw [hexDigits_of_lt hm, hexDigits_of_lt hn] at h
      exact digitChar_inj hm hn (List.singleton_inj.1 h)
    · rw [hexDigits_of_lt hm, hexDigits_of_le hn] at h
      exact absurd (List.append_eq_singleton_iff.1 h.symm) (by simp [hexDigits_ne_nil])
    · rw [hexDigits_of_le hm, hexDigits_of_lt hn] at h
      exact absurd (List.append_eq_singleton_iff.1 h) (by simp [hexDigits_ne_nil])
    · rw [hexDigits_of_le hm, hexDigits_of_le hn] at h
      obtain ⟨hfront, hlast⟩ := List.append_inj' h rfl
      have hquotient : m / 16 = n / 16 := ih _ (by omega) hfront
      have hdigit : m % 16 = n % 16 :=
        digitChar_inj (by omega) (by omega) (List.singleton_inj.1 hlast)
      omega

theorem isSome_hexValue?_of_mem {n : Nat} {c : Char} (h : c ∈ hexDigits n) :
    (hexValue? c).isSome := by
  induction n using Nat.strongRecOn with
  | ind n ih =>
    rcases Nat.lt_or_ge n 16 with hn | hn
    · rw [hexDigits_of_lt hn, List.mem_singleton] at h
      rw [h, hexValue?_digitChar hn]
      rfl
    · rw [hexDigits_of_le hn, List.mem_append, List.mem_singleton] at h
      rcases h with h | h
      · exact ih _ (by omega) h
      · rw [h, hexValue?_digitChar (Nat.mod_lt _ (by omega))]
        rfl

/-- The characters that are written as a backslash and a second character. -/
def shortEscapes : List (Char × Char) :=
  [('\x00', '0'), ('\t', 't'), ('\r', 'r'), ('\n', 'n'), ('"', '"'), ('\\', '\\')]

theorem shortEscapes_inj : ∀ e ∈ shortEscapes, ∀ e' ∈ shortEscapes, e.2 = e'.2 → e.1 = e'.1 := by
  decide

theorem shortEscapes_snd_ne : ∀ e ∈ shortEscapes, e.2 ≠ 'u' ∧ e.2 ≠ '\n' := by decide

/-- The ways in which a character is written between quotes. -/
inductive Escaped (c : Char) : Text → Prop
  | asItself : c ≠ '"' → c ≠ '\\' → c ≠ '\n' → Escaped c [c]
  | short {mark : Char} : (c, mark) ∈ shortEscapes → Escaped c ['\\', mark]
  | codePoint : Escaped c ('\\' :: 'u' :: '\x7b' :: (hexDigits c.toNat ++ ['\x7d']))

theorem escaped_escapeChar (c : Char) : Escaped c (escapeChar c) := by
  unfold escapeChar
  split
  · subst c; exact .short (by decide)
  split
  · subst c; exact .short (by decide)
  split
  · subst c; exact .short (by decide)
  split
  · subst c; exact .short (by decide)
  split
  · next h =>
    obtain rfl | rfl := h
    · exact .short (by decide)
    · exact .short (by decide)
  · next hline hquote =>
    split
    · exact .codePoint
    · exact .asItself (fun h => hquote (.inl h)) (fun h => hquote (.inr h)) hline

theorem brace_notMem_hexDigits (n : Nat) : '\x7d' ∉ hexDigits n := fun h =>
  absurd (isSome_hexValue?_of_mem h) (by decide)

theorem Escaped.inj {c d : Char} {s t u v : Text} (hc : Escaped c s) (hd : Escaped d t)
    (h : s ++ u = t ++ v) : c = d ∧ u = v := by
  cases hc with
  | asItself hquote hslash hline =>
    cases hd with
    | asItself => exact List.cons.inj h
    | short => exact absurd (List.cons.inj h).1 hslash
    | codePoint => exact absurd (List.cons.inj h).1 hslash
  | @short mark hmark =>
    cases hd with
    | asItself hquote hslash => exact absurd (List.cons.inj h).1.symm hslash
    | @short mark' hmark' =>
      obtain ⟨-, hmarks, htail⟩ : '\\' = '\\' ∧ mark = mark' ∧ u = v := by simpa using h
      exact ⟨shortEscapes_inj _ hmark _ hmark' hmarks, htail⟩
    | codePoint =>
      exact absurd (List.cons.inj (List.cons.inj h).2).1 (shortEscapes_snd_ne _ hmark).1
  | codePoint =>
    cases hd with
    | asItself hquote hslash => exact absurd (List.cons.inj h).1.symm hslash
    | @short mark hmark =>
      exact absurd (List.cons.inj (List.cons.inj h).2).1.symm (shortEscapes_snd_ne _ hmark).1
    | codePoint =>
      have hdigits : hexDigits c.toNat ++ '\x7d' :: u = hexDigits d.toNat ++ '\x7d' :: v := by
        simpa using h
      obtain ⟨hpoints, htail⟩ :=
        append_cons_inj (brace_notMem_hexDigits _) (brace_notMem_hexDigits _) hdigits
      exact ⟨Char.toNat_inj.1 (hexDigits_inj hpoints), htail⟩

theorem Escaped.ne_quote {c : Char} {s u v : Text} (h : Escaped c s) : s ++ u ≠ '"' :: v := by
  intro heq
  cases h with
  | asItself hquote => exact hquote (List.cons.inj heq).1
  | short => exact absurd (List.cons.inj heq).1 (by decide)
  | codePoint => exact absurd (List.cons.inj heq).1 (by decide)

theorem Escaped.lineFeed_notMem {c : Char} {s : Text} (h : Escaped c s) : '\n' ∉ s := by
  intro hmem
  cases h with
  | asItself _ _ hline => exact hline (List.mem_singleton.1 hmem).symm
  | @short mark hmark =>
    have hline : mark = '\n' := by simpa [eq_comm] using hmem
    exact (shortEscapes_snd_ne _ hmark).2 hline
  | codePoint =>
    have hdigit : '\n' ∈ hexDigits c.toNat := by simpa using hmem
    exact absurd (isSome_hexValue?_of_mem hdigit) (by decide)

theorem decodable_escapeChar : Decodable (fun _ => True) escapeChar '"' where
  inj := fun _ _ h => (escaped_escapeChar _).inj (escaped_escapeChar _) h
  ne_stop := (escaped_escapeChar _).ne_quote

/-- A quoted text is determined by any text that begins with it, and so is what stands behind. -/
theorem quote_append_inj {s t u v : Text} (h : quote s ++ u = quote t ++ v) : s = t ∧ u = v := by
  have hinner : s.flatMap escapeChar ++ '"' :: u = t.flatMap escapeChar ++ '"' :: v := by
    simpa [quote] using h
  exact decodable_escapeChar.flatMap_inj (by simp) (by simp) hinner

theorem lineFeed_notMem_quote (t : Text) : '\n' ∉ quote t := by
  intro h
  have hmem : '\n' ∈ t.flatMap escapeChar := by simpa [quote] using h
  obtain ⟨c, -, hc⟩ := List.mem_flatMap.1 hmem
  exact (escaped_escapeChar c).lineFeed_notMem hc

end ModalLexer.Text
