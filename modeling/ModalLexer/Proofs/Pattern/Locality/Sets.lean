import ModalLexer.Proofs.Pattern.Locality.Escapes

/-! # Sets in front of a closing parenthesis

A set that the text leaves open is not closed by a parenthesis either.
-/

namespace ModalLexer.Pattern

variable {α : Type} {a b : Nat} {flags : Flags} {t : Text}

theorem readDashes_local (flags : Flags) (o : OpenSet) (ha : t.length ≤ a) (hb : t.length < b) :
    Local t.length (.ok (readDashes flags o a t)) (.ok (readDashes flags o b (t ++ [')']))) := by
  refine Local.fueled (f := fun o a t => .ok (readDashes flags o a t)) flags ?_ ?_ ?_ o ha hb
  · intro _ a
    cases a <;> rfl
  · exact fun o b => .left o [] (Nat.le_refl _)
  · intro o a b c t hmore
    simp only [readDashes]
    split
    · exact (hmore _).mono (Nat.le_succ _)
    · exact .left o (c :: t) (Nat.le_refl _)

/-- Reads dashes and a closing bracket at the beginning of a set, behind the sign of negation. -/
def openItems (flags : Flags) (negated : Bool) (t : Text) : OpenSet × Text :=
  let p := readDashes flags { negated } t.length t
  if p.1.items.isEmpty ∧ p.2.head? = some ']' then (p.1.add (.single ']') 0, skip flags p.2.tail)
  else p

theorem openItems_local (flags : Flags) (negated : Bool) (t : Text) :
    Local t.length (.ok (openItems flags negated t))
      (.ok (openItems flags negated (t ++ [')']))) := by
  have hdashes := readDashes_local flags { negated } (Nat.le_refl t.length) (Nat.lt_succ_self _)
  obtain ⟨o, rest, h, hle, h' | ⟨rfl, h'⟩⟩ := hdashes.ok_cases
  · simp only [openItems, List.length_append, List.length_singleton, h, h',
      head?_append_paren (show ']' ≠ ')' by decide)]
    split
    · next hclose =>
      rw [tail_append_paren hclose.2]
      have hle' : rest.tail.length ≤ t.length := Nat.le_trans (length_tail_le rest) hle
      have hblanks := Local.blanks (t := rest.tail) flags
        (fun u => .ok (o.add (.single ']') 0, u)) (fun u => .ok (o.add (.single ']') 0, u)) rfl
        fun u _ => .left _ u (Nat.le_refl u.length)
      exact hblanks.mono hle'
    · exact .left o rest hle
  · simp only [openItems, List.length_append, List.length_singleton, h, h']
    rw [if_neg (by simp)]
    exact .passed o

theorem openSet_local (flags : Flags) (t : Text) :
    Local t.length (.ok (openSet flags t)) (.ok (openSet flags (t ++ [')']))) := by
  refine Local.blanks flags
    (fun u => .ok (openItems flags (u.head? = some '^')
      (if u.head? = some '^' then skip flags u.tail else u)))
    (fun u => .ok (openItems flags (u.head? = some '^')
      (if u.head? = some '^' then skip flags u.tail else u))) rfl fun u _ => ?_
  simp only [head?_append_paren (show '^' ≠ ')' by decide)]
  split
  · next hhead =>
    rw [tail_append_paren hhead]
    exact (Local.blanks flags (fun w => .ok (openItems flags _ w))
      (fun w => .ok (openItems flags _ w)) rfl fun w _ => openItems_local flags _ w).mono
      (length_tail_le u)
  · exact openItems_local flags _ u

/-- Reads the name of a class up to the colon and the bracket, and tells what `f` makes of the
class. -/
def classNamed? (f : CharSet → CharSet) (t : Text) : Option (CharSet × Text) :=
  if (t.dropWhile (· ≠ ':')).take 2 = [':', ']'] then
    (asciiClass? (String.ofList (t.takeWhile (· ≠ ':')))).map fun s =>
      (f s, (t.dropWhile (· ≠ ':')).drop 2)
  else none

theorem classNamed?_append (f : CharSet → CharSet) (t : Text) :
    classNamed? f (t ++ [')']) = (classNamed? f t).map fun p => (p.1, p.2 ++ [')']) := by
  have htwo : ∀ rest : Text, (rest ++ [')']).take 2 = [':', ']'] ↔ rest.take 2 = [':', ']'] :=
    take_append_paren (w := [':', ']']) (by decide)
  unfold classNamed?
  rcases span_append_paren (show ':' ≠ ')' by decide) t with ⟨-, hname, hrest⟩ | ⟨hrest, hrest'⟩
  · simp only [hname, hrest, htwo]
    split
    · next hclose =>
      have hlen : 2 ≤ (t.dropWhile (· ≠ ':')).length := length_le_of_take hclose rfl
      simp only [List.drop_append_of_le_length hlen, Option.map_map]
      rfl
    · rfl
  · simp only [hrest, hrest']
    rfl

theorem length_le_of_classNamed? {f : CharSet → CharSet} {s : CharSet} {rest : Text}
    (h : classNamed? f t = some (s, rest)) : rest.length ≤ t.length := by
  unfold classNamed? at h
  split at h
  · obtain ⟨s', -, hrest⟩ := Option.map_eq_some_iff.1 h
    cases hrest
    rw [List.length_drop]
    exact Nat.le_trans (Nat.sub_le _ _) (length_dropWhile_le _ t)
  · cases h

theorem readClassName_eq (flags : Flags) (t : Text) :
    readClassName flags t =
      if t.head? = some ':' then
        if t.tail.head? = some '^' then classNamed? (fun s => (flags.fold s).compl) t.tail.tail
        else classNamed? flags.fold t.tail
      else none := by
  unfold readClassName
  split
  · simp only [classNamed?, Option.bind_eq_bind, Option.bind_some]
    split
    · split
      · cases asciiClass? _ <;> rfl
      · rfl
    · split
      · cases asciiClass? _ <;> rfl
      · rfl
  · rfl

/-- A class name is found in front of the parenthesis or not at all. -/
theorem readClassName_append (flags : Flags) (t : Text) :
    readClassName flags (t ++ [')']) =
      (readClassName flags t).map fun p => (p.1, p.2 ++ [')']) := by
  simp only [readClassName_eq, head?_append_paren (show ':' ≠ ')' by decide)]
  split
  · next hcolon =>
    simp only [tail_append_paren hcolon, head?_append_paren (show '^' ≠ ')' by decide)]
    split
    · next hsign =>
      rw [tail_append_paren hsign]
      exact classNamed?_append _ _
    · exact classNamed?_append _ _
  · rfl

theorem length_le_of_readClassName {s : CharSet} {rest : Text}
    (h : readClassName flags t = some (s, rest)) : rest.length ≤ t.length := by
  rw [readClassName_eq] at h
  split at h
  · split at h
    · exact Nat.le_trans (length_le_of_classNamed? h) (by simp; omega)
    · exact Nat.le_trans (length_le_of_classNamed? h) (by simp)
  · cases h

theorem OpenBrace.skip (h : OpenBrace flags t) (rest : Text) :
    skip flags (t ++ rest) = t ++ rest := by
  obtain ⟨inner, rfl, -, -⟩ := h
  unfold Pattern.skip
  split
  · rw [List.cons_append, skipBlanks, if_neg (by decide), if_neg (by decide), if_neg (by decide)]
  · rfl

theorem OpenBrace.readSetItem (h : OpenBrace flags t) :
    readSetItem flags ('\\' :: 'b' :: t) = .error .invalidEscape ∧
      readSetItem flags ('\\' :: 'b' :: t ++ [')']) =
        .ok (.anchor (.boundary flags.unicode), t ++ [')']) :=
  h.readBoundary

/-- An item is read as without the parenthesis, unless it is a word boundary, which no set has. -/
theorem readSetItem_local (flags : Flags) (t : Text) :
    Local (t.length - 1) (readSetItem flags t) (readSetItem flags (t ++ [')'])) ∨
      ∃ u, t = '\\' :: 'b' :: u ∧ OpenBrace flags u := by
  cases t with
  | nil => exact .inl (.failed _ _ fun _ _ h => by cases h; rfl)
  | cons c t =>
    simp only [Pattern.readSetItem, List.cons_append]
    split
    · next hc =>
      rcases readEscape_local flags t with h | ⟨u, rfl, hu⟩
      · exact .inl h
      · exact .inr ⟨u, by rw [hc], hu⟩
    · exact .inl (.left _ t (Nat.le_refl _))

theorem rangeSign?_append {c : Char} (hc : c ≠ ')') (t : Text) :
    rangeSign? flags (t ++ [')']) = some c ↔ rangeSign? flags t = some c := by
  unfold rangeSign?
  simp only [dropWhile_space_append, head?_append_paren (show '#' ≠ ')' by decide)]
  split
  · exact head?_append_paren hc t
  · split
    · next hhead =>
      rw [tail_append_paren hhead, dropWhile_space_append]
      exact head?_append_paren hc _
    · exact head?_append_paren hc _

/-- Reads the end of a range whose beginning is `first`. -/
def readRangeEnd (flags : Flags) (first : Primitive) (t : Text) :
    Except PatternError (CharSet × Text) := do
  let (last, t) ← readSetItem flags t
  match first, last with
  | .literal a, .literal b =>
    if b < a then throw .invalidSet
    else if flags.unicode || b.toNat < 128 then return (.range a b, t)
    else throw .partOfCharacter
  | _, _ => throw .invalidSet

theorem readRangeEnd_local (flags : Flags) (first : Primitive) (t : Text) :
    Local t.length (readRangeEnd flags first t) (readRangeEnd flags first (t ++ [')'])) := by
  unfold readRangeEnd
  rcases readSetItem_local flags t with h | ⟨u, rfl, hu⟩
  · refine (h.bind fun last rest _ => ?_).mono (Nat.sub_le _ 1)
    dsimp only
    split
    · split
      · exact .error
      · split
        · exact .left _ rest (Nat.le_refl _)
        · exact .error
    · exact .error
  · rw [hu.readSetItem.1, hu.readSetItem.2]
    cases first <;> exact .error

/-- Reads what makes a range of an item, if there is a dash behind it. -/
def readRangeBehind (flags : Flags) (first : Primitive) (t : Text) :
    Except PatternError (CharSet × Text) :=
  if t.head? ≠ some '-' ∨ rangeSign? flags t.tail = some ']' ∨
      rangeSign? flags t.tail = some '-' then
    first.toSet flags >>= fun s => .ok (s, t)
  else readRangeEnd flags first (skip flags t.tail)

theorem readRangeBehind_local (flags : Flags) (first : Primitive) (t : Text) :
    Local t.length (readRangeBehind flags first t) (readRangeBehind flags first (t ++ [')'])) := by
  unfold readRangeBehind
  by_cases hdash : t.head? = some '-'
  · simp only [ne_eq, head?_append_paren (show '-' ≠ ')' by decide), tail_append_paren hdash,
      rangeSign?_append (show ']' ≠ ')' by decide), rangeSign?_append (show '-' ≠ ')' by decide)]
    split
    · exact .value (first.toSet flags) id t
    · exact (Local.blanks flags (readRangeEnd flags first) _ rfl
        fun u _ => readRangeEnd_local flags first u).mono (length_tail_le _)
  · have hdash' : (t ++ [')']).head? ≠ some '-' := by
      rwa [ne_eq, head?_append_paren (show '-' ≠ ')' by decide)]
    rw [if_pos (.inl hdash), if_pos (.inl hdash')]
    exact .value (first.toSet flags) id t

theorem readSetRange_eq (flags : Flags) (t : Text) :
    readSetRange flags t =
      readSetItem flags t >>= fun p => readRangeBehind flags p.1 (skip flags p.2) := rfl

/-- A range takes one character at least. -/
theorem readSetRange_local (flags : Flags) (t : Text) :
    Local (t.length - 1) (readSetRange flags t) (readSetRange flags (t ++ [')'])) := by
  rw [readSetRange_eq, readSetRange_eq]
  rcases readSetItem_local flags t with h | ⟨u, rfl, hu⟩
  · exact h.bind fun first rest _ => Local.blanks flags (readRangeBehind flags first) _ rfl
      fun u _ => readRangeBehind_local flags first u
  · rw [hu.readSetItem.1, hu.readSetItem.2]
    show Local _ _ (readRangeBehind flags _ (skip flags (u ++ [')'])))
    rw [hu.skip]
    obtain ⟨inner, rfl, -, -⟩ := hu
    rw [readRangeBehind, if_pos (.inl (by simp))]
    exact .error

@[simp] theorem readSet_nil (flags : Flags) (fuel : Nat) (o : OpenSet) (outer : List OpenSet) :
    readSet flags fuel o outer [] = .error .invalidSet := by
  cases fuel <;> simp [readSet]

/-- Reads an open set to its end, given the sets around it. -/
abbrev SetReader := OpenSet → List OpenSet → Text → Except PatternError (CharSet × Nat × Text)

namespace SetReader

/-- Reads on behind a bracket that opens the name of a class or a set within the set. -/
def inner (again : SetReader) (flags : Flags) : SetReader := fun o outer t =>
  match readClassName flags t with
  | some (s, rest) =>
    match flags.admit s with
    | .ok s => again (o.add s 0) outer rest
    | .error e => .error e
  | none => again (openSet flags t).1 (o :: outer) (openSet flags t).2

/-- Reads on behind the bracket that closes the set. -/
def closed (again : SetReader) (flags : Flags) : SetReader := fun o outer t =>
  match o.close flags, outer with
  | .error e, _ => .error e
  | .ok (s, depth), [] => .ok (s, depth, t)
  | .ok (s, depth), o :: outer => again (o.add s depth) outer t

/-- Reads an item or a range, and on behind it. -/
def range (again : SetReader) (flags : Flags) : SetReader := fun o outer t =>
  match readSetRange flags t with
  | .ok (s, rest) => again (o.add s 0) outer rest
  | .error e => .error e

/-- Reads what begins with the character, and on behind it. -/
def step (again : SetReader) (flags : Flags) (o : OpenSet) (outer : List OpenSet) (c : Char)
    (t : Text) : Except PatternError (CharSet × Nat × Text) :=
  if c = '[' then again.inner flags o outer t
  else if c = ']' then again.closed flags o outer t
  else if c = '&' ∧ t.head? = some '&' then again (o.operator flags .inter) outer t.tail
  else if c = '-' ∧ t.head? = some '-' then again (o.operator flags .diff) outer t.tail
  else if c = '~' ∧ t.head? = some '~' then again (o.operator flags .symmDiff) outer t.tail
  else again.range flags o outer (c :: t)

/-- A parenthesis alone is an item of the set, which nothing closes. -/
theorem step_paren {again : SetReader} (hnil : ∀ o outer, again o outer [] = .error .invalidSet)
    (flags : Flags) (o : OpenSet) (outer : List OpenSet) :
    ∃ e, again.step flags o outer ')' [] = .error e := by
  have hparen : Local 0 (.error .invalidSet) (readSetRange flags [')']) :=
    readSetRange_local flags []
  have hrange : again.step flags o outer ')' [] = again.range flags o outer [')'] := by
    simp [step]
  rw [hrange, range]
  cases hitem : readSetRange flags [')'] with
  | error e => exact ⟨e, rfl⟩
  | ok p =>
    obtain ⟨s, rest⟩ := p
    obtain rfl := hparen.eq_nil_of_error hitem
    exact ⟨.invalidSet, hnil _ outer⟩

end SetReader

theorem readSet_of_cons {c : Char} {u : Text} (h : skip flags t = c :: u) (o : OpenSet)
    (outer : List OpenSet) :
    readSet flags (a + 1) o outer t = SetReader.step (readSet flags a) flags o outer c u := by
  simp only [readSet, h]
  rfl

/-- Sets are read to their ends in two ways, which are local on texts of at most `n` characters. -/
structure LocalSets (k : CharSet → Nat → α) (n : Nat) (again again' : SetReader) : Prop where
  more : ∀ o outer u, u.length ≤ n →
    Local n (again o outer u >>= fun p => .ok (k p.1 p.2.1, p.2.2))
      (again' o outer (u ++ [')']) >>= fun p => .ok (k p.1 p.2.1, p.2.2))
  nil : ∀ o outer, again o outer [] = .error .invalidSet
  nil' : ∀ o outer, again' o outer [] = .error .invalidSet

namespace LocalSets

variable {k : CharSet → Nat → α} {n : Nat} {again again' : SetReader}

theorem range (h : LocalSets k n again again') (o : OpenSet) (outer : List OpenSet) {t : Text}
    (ht : t.length ≤ n + 1) :
    Local n (again.range flags o outer t >>= fun p => .ok (k p.1 p.2.1, p.2.2))
      (again'.range flags o outer (t ++ [')']) >>= fun p => .ok (k p.1 p.2.1, p.2.2)) := by
  have hitem := readSetRange_local flags t
  unfold SetReader.range
  generalize readSetRange flags t = x, readSetRange flags (t ++ [')']) = y at hitem
  cases hitem with
  | left s rest hrest => exact h.more _ _ rest (by omega)
  | passed s =>
    simp only [h.nil, h.nil']
    exact .error
  | failed e y hy =>
    cases y with
    | error e => exact .error
    | ok p =>
      obtain ⟨s, rest⟩ := p
      obtain rfl := hy s rest rfl
      simp only [h.nil']
      exact .error

theorem inner (h : LocalSets k n again again') (o : OpenSet) (outer : List OpenSet) {t : Text}
    (ht : t.length ≤ n) :
    Local n (again.inner flags o outer t >>= fun p => .ok (k p.1 p.2.1, p.2.2))
      (again'.inner flags o outer (t ++ [')']) >>= fun p => .ok (k p.1 p.2.1, p.2.2)) := by
  unfold SetReader.inner
  rw [readClassName_append]
  cases hname : readClassName flags t with
  | none =>
    obtain ⟨inner, rest, hopen, hrest, hopen' | ⟨rfl, hopen'⟩⟩ := (openSet_local flags t).ok_cases
    · simp only [Option.map_none, hopen, hopen']
      exact h.more _ _ rest (Nat.le_trans hrest ht)
    · simp only [Option.map_none, hopen, hopen', h.nil, h.nil']
      exact .error
  | some found =>
    obtain ⟨s, rest⟩ := found
    simp only [Option.map_some]
    split
    · exact h.more _ _ rest (Nat.le_trans (length_le_of_readClassName hname) ht)
    · exact .error

theorem closed (h : LocalSets k n again again') (o : OpenSet) (outer : List OpenSet) {t : Text}
    (ht : t.length ≤ n) :
    Local n (again.closed flags o outer t >>= fun p => .ok (k p.1 p.2.1, p.2.2))
      (again'.closed flags o outer (t ++ [')']) >>= fun p => .ok (k p.1 p.2.1, p.2.2)) := by
  unfold SetReader.closed
  split
  · exact .error
  · exact .left _ t ht
  · exact h.more _ _ t ht

/-- An operator is read in front of the parenthesis or not at all. -/
theorem operator (h : LocalSets k n again again') (o : OpenSet) (outer : List OpenSet) {t : Text}
    {d : Char} (hd : t.head? = some d) (ht : t.length ≤ n) :
    Local n (again o outer t.tail >>= fun p => .ok (k p.1 p.2.1, p.2.2))
      (again' o outer (t ++ [')']).tail >>= fun p => .ok (k p.1 p.2.1, p.2.2)) := by
  rw [tail_append_paren hd]
  exact h.more _ _ _ (Nat.le_trans (length_tail_le t) ht)

theorem step (h : LocalSets k n again again') (o : OpenSet) (outer : List OpenSet) (c : Char)
    {t : Text} (ht : t.length ≤ n) :
    Local n (again.step flags o outer c t >>= fun p => .ok (k p.1 p.2.1, p.2.2))
      (again'.step flags o outer c (t ++ [')']) >>= fun p => .ok (k p.1 p.2.1, p.2.2)) := by
  simp only [SetReader.step, head?_append_paren (show '&' ≠ ')' by decide),
    head?_append_paren (show '-' ≠ ')' by decide), head?_append_paren (show '~' ≠ ')' by decide)]
  split
  · exact h.inner o outer ht
  split
  · exact h.closed o outer ht
  split
  · next hop => exact h.operator _ _ hop.2 ht
  split
  · next hop => exact h.operator _ _ hop.2 ht
  split
  · next hop => exact h.operator _ _ hop.2 ht
  · exact h.range o outer (t := c :: t) (Nat.succ_le_succ ht)

end LocalSets

theorem readSet_local (flags : Flags) (k : CharSet → Nat → α) (o : OpenSet) (outer : List OpenSet)
    (ha : t.length < a) (hb : t.length + 1 < b) :
    Local t.length (readSet flags a o outer t >>= fun p => .ok (k p.1 p.2.1, p.2.2))
      (readSet flags b o outer (t ++ [')']) >>= fun p => .ok (k p.1 p.2.1, p.2.2)) := by
  induction a generalizing b o outer t with
  | zero => exact absurd ha (Nat.not_lt_zero _)
  | succ a ih =>
    obtain ⟨b, rfl⟩ := Nat.exists_eq_add_one_of_ne_zero (Nat.ne_zero_of_lt hb)
    rcases skip_append flags t with h | ⟨h, h'⟩
    · cases hskip : skip flags t with
      | nil =>
        rw [hskip] at h
        obtain ⟨e, he⟩ := SetReader.step_paren (readSet_nil flags b) flags o outer
        rw [readSet_of_cons h, he]
        simp only [readSet, hskip]
        exact .error
      | cons c u =>
        have hle : u.length + 1 ≤ t.length := by
          simpa [hskip] using length_skip_le flags t
        have hagain : LocalSets k u.length (readSet flags a) (readSet flags b) :=
          ⟨fun o outer u' hu => (ih o outer (by omega) (by omega)).mono hu, readSet_nil flags a,
            readSet_nil flags b⟩
        rw [hskip] at h
        rw [readSet_of_cons hskip, readSet_of_cons h]
        exact (hagain.step o outer c (Nat.le_refl _)).mono (Nat.le_of_succ_le hle)
    · simp only [readSet, h, h']
      exact .error

end ModalLexer.Pattern
