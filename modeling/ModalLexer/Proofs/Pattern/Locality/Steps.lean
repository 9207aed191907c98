import ModalLexer.Proofs.Pattern.Locality.Sets

/-! # Steps in front of a closing parenthesis

Groups, repetitions and all other steps of reading a pattern.
-/

namespace ModalLexer.Pattern

variable {α : Type} {n : Nat} {flags : Flags} {t : Text}

theorem readFlags_local (flags : Flags) (k : Flags → Bool → α) (seen : List Char) (t : Text) :
    Local t.length (readFlags flags seen t >>= fun p => .ok (k p.1 p.2.1, p.2.2))
      (readFlags flags seen (t ++ [')']) >>= fun p => .ok (k p.1 p.2.1, p.2.2)) := by
  induction t generalizing flags seen with
  | nil =>
    refine .failed .invalidFlags _ fun p rest h => ?_
    simp only [List.nil_append, readFlags, or_true, if_true] at h
    split at h
    · cases h
    · split at h
      · cases h
      · cases h; rfl
  | cons c t ih =>
    simp only [readFlags, List.cons_append]
    split
    · split
      · exact .error
      · split
        · exact .error
        · exact .left _ t (Nat.le_succ _)
    · split
      · exact .error
      · split
        · exact (ih flags (c :: seen)).mono (Nat.le_succ _)
        · split
          · exact (ih _ (c :: seen)).mono (Nat.le_succ _)
          · exact .error

theorem readGroupName_local (names : List Text) (t : Text) :
    Local t.length (readGroupName names t) (readGroupName names (t ++ [')'])) := by
  unfold readGroupName
  rcases span_append_paren (show '>' ≠ ')' by decide) t with ⟨hne, hname, hrest⟩ | ⟨hrest, hrest'⟩
  · obtain ⟨c, rest, hsplit⟩ := List.exists_cons_of_ne_nil hne
    have hle : rest.length ≤ t.length := by
      have hle := length_dropWhile_le (· ≠ '>') t
      rw [hsplit, List.length_cons] at hle
      omega
    simp only [hname, hrest, hsplit, List.cons_append]
    cases t.takeWhile (· ≠ '>') with
    | nil => exact .error
    | cons d name =>
      dsimp only
      split
      · exact .error
      · split
        · exact .error
        · exact .left _ rest hle
  · simp only [hrest, hrest']
    cases t.takeWhile (· ≠ '>') <;> cases (t ++ [')']).takeWhile (· ≠ '>') <;> exact .error

/-- Reads the beginning of a group behind its parenthesis and blanks. -/
def Reading.readOpener (r : Reading) (t : Text) : Except PatternError (Reading × Text) :=
  if t.take 2 = ['?', '='] ∨ t.take 2 = ['?', '!'] ∨ t.take 3 = ['?', '<', '='] ∨
      t.take 3 = ['?', '<', '!'] then .error .lookaround
  else if t.take 3 = ['?', 'P', '<'] ∨ t.take 2 = ['?', '<'] then
    readGroupName r.names (t.drop (if t.take 2 = ['?', '<'] then 2 else 3)) >>= fun p =>
      .ok ({ r.enter (some r.nextGroup) r.flags with names := p.1 :: r.names }, p.2)
  else if t.take 1 = ['?'] then
    readFlags r.flags [] t.tail >>= fun p =>
      .ok (if p.2.1 then { r with flags := p.1 }.add .flags else r.enter none p.1, p.2.2)
  else .ok (r.enter (some r.nextGroup) r.flags, t)

theorem Reading.openGroup_eq (r : Reading) (t : Text) :
    r.openGroup t = r.readOpener (skip r.flags t) := by
  have htake : ∀ u : Text, (u.take 3).take 2 = u.take 2 ∧ (u.take 3).take 1 = u.take 1 := by
    intro u
    simp [List.take_take]
  simp only [openGroup, readOpener, (htake _).1, (htake _).2]
  split
  · rfl
  · split
    · rfl
    · split
      · cases readFlags r.flags [] (skip r.flags t).tail with
        | error e => rfl
        | ok p =>
          obtain ⟨flags, directive, rest⟩ := p
          cases directive <;> rfl
      · rfl

theorem Reading.readOpener_local (r : Reading) (t : Text) :
    Local t.length (r.readOpener t) (r.readOpener (t ++ [')'])) := by
  -- No opener ends in a parenthesis.
  have htake : ∀ (w : Text) (n : Nat), w.length = n → w.getLast? ≠ some ')' →
      ((t ++ [')']).take n = w ↔ t.take n = w) := by
    rintro w n rfl hw
    exact take_append_paren hw t
  have hnames := htake ['?', '<'] 2 rfl (by decide)
  have hpython := htake ['?', 'P', '<'] 3 rfl (by decide)
  have hmark := htake ['?'] 1 rfl (by decide)
  simp only [readOpener, htake ['?', '='] 2 rfl (by decide), htake ['?', '!'] 2 rfl (by decide),
    htake ['?', '<', '='] 3 rfl (by decide), htake ['?', '<', '!'] 3 rfl (by decide), hnames,
    hpython, hmark]
  split
  · exact .error
  split
  · next hnamed =>
    have hdrop : (if t.take 2 = ['?', '<'] then 2 else 3) ≤ t.length := by
      split
      · next h => exact length_le_of_take h rfl
      · next h => exact length_le_of_take (hnamed.resolve_right h) rfl
    rw [List.drop_append_of_le_length hdrop]
    refine ((readGroupName_local r.names _).bind fun name rest _ => ?_).mono
      (by rw [List.length_drop]; exact Nat.sub_le _ _)
    exact .left _ rest (Nat.le_refl _)
  split
  · next hflags =>
    have hhead : t.head? = some '?' := by
      cases t with
      | nil => cases hflags
      | cons c t => simpa using hflags
    rw [tail_append_paren hhead]
    exact (readFlags_local r.flags (fun flags directive => if directive then
      { r with flags }.add .flags else r.enter none flags) [] t.tail).mono
      (length_tail_le _)
  · exact .left _ t (Nat.le_refl _)

theorem Reading.openGroup_local (r : Reading) (t : Text) :
    Local t.length (r.openGroup t) (r.openGroup (t ++ [')'])) := by
  rw [openGroup_eq, openGroup_eq]
  exact Local.blanks r.flags r.readOpener _ rfl fun u _ => r.readOpener_local u

theorem readLazy_local (t : Text) :
    Local t.length (.ok (readLazy t)) (.ok (readLazy (t ++ [')']))) := by
  cases t with
  | nil => exact .left false [] (Nat.le_refl _)
  | cons c t =>
    simp only [readLazy, List.cons_append]
    split
    · exact .left true t (Nat.le_succ _)
    · exact .left false (c :: t) (Nat.le_refl _)

/-- Reads the question mark behind a repetition, and repeats what is in front of it. -/
def Reading.repeatLazily (r : Reading) (least : Nat) (most : Option Nat) (t : Text) :
    Except PatternError (Reading × Text) :=
  r.repeatLast least most (readLazy t).1 >>= fun r => .ok (r, (readLazy t).2)

theorem Reading.repeatLazily_local (r : Reading) (least : Nat) (most : Option Nat) (t : Text) :
    Local t.length (r.repeatLazily least most t) (r.repeatLazily least most (t ++ [')'])) :=
  (readLazy_local t).bind (k := fun p => r.repeatLast least most p.1 >>= fun r => .ok (r, p.2))
    fun isLazy rest _ => .value (r.repeatLast least most isLazy) id rest

/-- Reads the end of a counted repetition. -/
def Reading.readCountEnd (r : Reading) (least : Nat) (most : Option Nat) (t : Text) :
    Except PatternError (Reading × Text) :=
  if t.head? ≠ some '\x7d' then .error .invalidCount
  else if most.any (· < least) then .error .invalidCount
  else r.repeatLazily least most (skip r.flags t.tail)

theorem Reading.readCountEnd_local (r : Reading) (least : Nat) (most : Option Nat) (t : Text) :
    Local t.length (r.readCountEnd least most t) (r.readCountEnd least most (t ++ [')'])) := by
  simp only [readCountEnd, ne_eq, head?_append_paren (show '\x7d' ≠ ')' by decide)]
  split
  · exact .error
  · next hbrace =>
    split
    · exact .error
    · rw [tail_append_paren (Decidable.not_not.1 hbrace)]
      exact (Local.blanks r.flags (r.repeatLazily least most) _ rfl
        fun u _ => r.repeatLazily_local least most u).mono
        (length_tail_le _)

/-- Reads the greatest number of repetitions, if there is one, behind the least one. -/
def readMost (flags : Flags) (least : Nat) (t : Text) : Except PatternError (Option Nat × Text) :=
  if t.head? = some ',' then
    if (skip flags t.tail).head? = some '\x7d' then .ok (none, skip flags t.tail)
    else readCount flags (skip flags t.tail) >>= fun p => .ok (some p.1, p.2)
  else .ok (some least, t)

theorem readMost_local (flags : Flags) (least : Nat) (t : Text) :
    Local t.length (readMost flags least t) (readMost flags least (t ++ [')'])) := by
  simp only [readMost, head?_append_paren (show ',' ≠ ')' by decide)]
  split
  · next hcomma =>
    rw [tail_append_paren hcomma]
    refine (Local.blanks (t := t.tail) flags
      (fun u => if u.head? = some '\x7d' then .ok (none, u)
        else readCount flags u >>= fun p => .ok (some p.1, p.2))
      (fun u => if u.head? = some '\x7d' then .ok (none, u)
        else readCount flags u >>= fun p => .ok (some p.1, p.2)) rfl fun u _ => ?_).mono
      (length_tail_le _)
    simp only [head?_append_paren (show '\x7d' ≠ ')' by decide)]
    split
    · exact .left none u (Nat.le_refl _)
    · exact (readCount_local flags u).map some
  · exact .left (some least) t (Nat.le_refl _)

theorem Reading.readCounted_eq (r : Reading) (t : Text) :
    r.readCounted t =
      readCount r.flags (skip r.flags t) >>= fun p =>
        readMost r.flags p.1 p.2 >>= fun q => r.readCountEnd p.1 q.1 q.2 := by
  have hend : ∀ least (most : Option Nat) (t : Text),
      (do
        if t.head? ≠ some '\x7d' then throw .invalidCount
        if most.any (· < least) then throw .invalidCount
        return (← r.repeatLast least most (readLazy (skip r.flags t.tail)).1,
          (readLazy (skip r.flags t.tail)).2)) = r.readCountEnd least most t := by
    intro least most t
    simp only [readCountEnd, repeatLazily]
    split
    · rfl
    · split
      · rfl
      · cases r.repeatLast least most _ <;> rfl
  unfold readCounted
  refine bind_congr fun p => ?_
  obtain ⟨least, t⟩ := p
  unfold readMost
  dsimp only
  split
  · split
    · exact hend least none _
    · cases readCount r.flags (skip r.flags t.tail) with
      | error e => rfl
      | ok q => exact hend least (some q.1) q.2
  · exact hend least (some least) t

theorem Reading.readCounted_local (r : Reading) (t : Text) :
    Local t.length (r.readCounted t) (r.readCounted (t ++ [')'])) := by
  rw [readCounted_eq, readCounted_eq]
  refine (Local.blanks r.flags (readCount r.flags) _ rfl fun u _ => readCount_local r.flags u).bind
    fun least rest _ => ?_
  exact (readMost_local r.flags least rest).bind
    fun most rest _ => r.readCountEnd_local least most rest

/-- A step does not depend on the parenthesis behind the text, unless it reads a word boundary that
a brace follows. -/
theorem Reading.step_local (r : Reading) (c : Char) (t : Text) :
    Local t.length (r.step c t) (r.step c (t ++ [')'])) ∨
      c = '\\' ∧ ∃ u, t = 'b' :: u ∧ OpenBrace r.flags u := by
  unfold step
  split
  · exact .inl (r.openGroup_local t)
  · exact .inl (.value r.closeGroup id t)
  · exact .inl (.left _ t (Nat.le_refl _))
  · refine .inl ?_
    obtain ⟨o, rest, h, hle, h' | ⟨rfl, h'⟩⟩ := (openSet_local r.flags t).ok_cases
    · rw [h, h']
      exact (readSet_local r.flags (fun s depth => r.add (.expr (.ofSet s) depth)) o []
        (Nat.lt_succ_self _) (by simp)).mono hle
    · simp only [h, h', readSet_nil]
      exact .error
  · exact .inl (r.repeatLazily_local 0 (some 1) t)
  · exact .inl (r.repeatLazily_local 0 none t)
  · exact .inl (r.repeatLazily_local 1 none t)
  · exact .inl (r.readCounted_local t)
  · rcases readEscape_local r.flags t with h | h
    · exact .inl (h.map fun p : Primitive => r.add (.expr (p.toExpr r.flags) 0))
    · exact .inr ⟨rfl, h⟩
  · exact .inl (.value r.flags.dot (fun s => r.add (.expr (.ofSet s) 0)) t)
  · exact .inl (.left _ t (Nat.le_refl _))
  · exact .inl (.left _ t (Nat.le_refl _))
  · exact .inl (.left _ t (Nat.le_refl _))

end ModalLexer.Pattern
