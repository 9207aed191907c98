/-! # Texts measured in bytes

A text is a list of characters, and its size is that of its UTF-8 form. Offsets into a text count
bytes, so a cut can fall inside a character; such a cut is refused.
-/

namespace ModalLexer

abbrev Text := List Char

namespace Text

/-- The number of bytes of the UTF-8 form. -/
def byteSize : Text → Nat
  | [] => 0
  | c :: t => c.utf8Size + byteSize t

/-- Splits after `n` bytes, or at the end if there are fewer. The cut is refused inside a
character. -/
def splitBytes? : Nat → Text → Option (Text × Text)
  | 0, t => some ([], t)
  | _ + 1, [] => some ([], [])
  | n + 1, c :: t =>
    if c.utf8Size ≤ n + 1 then
      (splitBytes? (n + 1 - c.utf8Size) t).map fun (head, tail) => (c :: head, tail)
    else none

/-- Splits after the characters that begin before byte `n`. -/
def splitCovering : Nat → Text → Text × Text
  | 0, t => ([], t)
  | _ + 1, [] => ([], [])
  | n + 1, c :: t =>
    let (head, tail) := splitCovering (n + 1 - c.utf8Size) t
    (c :: head, tail)

/-- Splits before the first character for which `p` fails. -/
def splitWhile (p : Char → Bool) : Text → Text × Text
  | [] => ([], [])
  | c :: t =>
    if p c then
      let (head, tail) := splitWhile p t
      (c :: head, tail)
    else ([], c :: t)

def fields (separator : Char) : Text → List Text
  | [] => [[]]
  | c :: t =>
    if c = separator then [] :: fields separator t
    else
      match fields separator t with
      | [] => [[c]]
      | first :: others => (c :: first) :: others

variable {n : Nat} {c : Char} {s t head tail : Text} {p : Char → Bool}

@[simp] theorem byteSize_nil : byteSize [] = 0 := rfl

@[simp] theorem byteSize_cons : byteSize (c :: t) = c.utf8Size + byteSize t := rfl

@[simp] theorem byteSize_append : byteSize (s ++ t) = byteSize s + byteSize t := by
  induction s with
  | nil => simp
  | cons c s ih => simp [ih, Nat.add_assoc]

theorem length_le_byteSize : t.length ≤ byteSize t := by
  induction t with
  | nil => simp
  | cons c t ih =>
    have := c.utf8Size_pos
    simp only [List.length_cons, byteSize_cons]; omega

theorem byteSize_pos (h : t ≠ []) : 0 < byteSize t :=
  Nat.lt_of_lt_of_le (List.length_pos_iff.2 h) length_le_byteSize

theorem byteSize_eq_zero : byteSize t = 0 ↔ t = [] := by
  constructor
  · exact fun hsize => Decidable.byContradiction fun hne => Nat.ne_of_gt (byteSize_pos hne) hsize
  · rintro rfl
    rfl

/-- A text of which nothing is missing is the whole. -/
theorem eq_of_suffix_of_byteSize (h : s <:+ t) (hsize : byteSize s = byteSize t) : s = t := by
  obtain ⟨taken, rfl⟩ := h
  rw [byteSize_append] at hsize
  rw [byteSize_eq_zero.1 (Nat.right_eq_add.1 hsize), List.nil_append]

theorem append_of_splitBytes? (h : splitBytes? n t = some (head, tail)) : head ++ tail = t := by
  fun_induction splitBytes? n t generalizing head with
  | case1 => simp at h; simp [h]
  | case2 => simp at h; simp [h]
  | case3 n c t _ ih =>
    obtain ⟨⟨a, b⟩, hab, hpair⟩ := Option.map_eq_some_iff.1 h
    cases hpair
    simp [ih hab]
  | case4 => simp at h

@[simp] theorem splitBytes?_byteSize (u rest : Text) :
    splitBytes? (byteSize u) (u ++ rest) = some (u, rest) := by
  induction u with
  | nil => simp [splitBytes?]
  | cons c u ih =>
    obtain ⟨n, hn⟩ : ∃ n, byteSize (c :: u) = n + 1 :=
      Nat.exists_eq_succ_of_ne_zero (by have := c.utf8Size_pos; simp only [byteSize_cons]; omega)
    have hsize : n + 1 - c.utf8Size = byteSize u := by simp only [byteSize_cons] at hn; omega
    have hle : c.utf8Size ≤ n + 1 := by simp only [byteSize_cons] at hn; omega
    rw [hn, List.cons_append, splitBytes?, if_pos hle, hsize, ih]
    rfl

theorem splitCovering_append : (splitCovering n t).1 ++ (splitCovering n t).2 = t := by
  fun_induction splitCovering n t with
  | case1 => rfl
  | case2 => rfl
  | case3 n c t head tail heq ih => simpa [heq] using ih

theorem splitWhile_append : (splitWhile p t).1 ++ (splitWhile p t).2 = t := by
  fun_induction splitWhile p t with
  | case1 => rfl
  | case2 c t _ head tail heq ih => simpa [heq] using ih
  | case3 => rfl

theorem fields_of_notMem (h : c ∉ t) : fields c t = [t] := by
  induction t with
  | nil => rfl
  | cons d t ih =>
    obtain ⟨hd, ht⟩ := not_or.1 (mt List.mem_cons.2 h)
    simp [fields, ih ht, Ne.symm hd]

theorem fields_append_cons (h : c ∉ s) (t : Text) : fields c (s ++ c :: t) = s :: fields c t := by
  induction s with
  | nil => simp [fields]
  | cons d s ih =>
    obtain ⟨hd, hs⟩ := not_or.1 (mt List.mem_cons.2 h)
    simp [fields, ih hs, Ne.symm hd]

/-- Lines that end with the separator are its fields. -/
theorem fields_flatMap {lines : List Text} (h : ∀ line ∈ lines, c ∉ line) (t : Text) :
    fields c (lines.flatMap (· ++ [c]) ++ t) = lines ++ fields c t := by
  induction lines with
  | nil => rfl
  | cons line lines ih =>
    obtain ⟨hline, hlines⟩ := List.forall_mem_cons.1 h
    simp [fields_append_cons hline, ih hlines]

end Text

end ModalLexer
