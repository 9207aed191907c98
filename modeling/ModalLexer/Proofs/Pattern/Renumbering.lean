import Std.Data.TreeSet.Lemmas
import ModalLexer.Pattern.Basic

/-! # The numbers of points

Which numbers the points of a matcher have does not matter as long as they are apart from those
passed before. So the same expression finds the same match, whether its points are numbered from the
beginning or behind others.
-/

namespace ModalLexer.Pattern

/-- The matcher with the numbers of its points raised by `k`. -/
def Matcher.shift (k : Nat) : Matcher → Matcher
  | once point => once (point + k)
  | group index body => group index (body.shift k)
  | cat a b => cat (a.shift k) (b.shift k)
  | alt a b => alt (a.shift k) (b.shift k)
  | plus body lazy => plus (body.shift k) lazy
  | empty => empty
  | set s => set s
  | anchor a => anchor a

variable {k : Nat} {pointed lazy : Bool}

@[simp] theorem Matcher.shift_ofText (k : Nat) (t : Text) : (ofText t).shift k = ofText t := by
  fun_induction ofText t with
  | case1 | case2 => rfl
  | case3 c t _ ih => simp [shift, ih]

@[simp] theorem Matcher.shift_opt (k : Nat) (m : Matcher) (lazy : Bool) :
    (opt m lazy).shift k = opt (m.shift k) lazy := by
  cases lazy <;> rfl

@[simp] theorem Matcher.shift_star (k : Nat) (m : Matcher) (lazy : Bool) :
    (star m lazy).shift k = star (m.shift k) lazy := by
  simp [star, shift]

namespace Numbering

/-- The second construction makes the matcher of the first one with points raised by `k`, if it
begins to count so much later. -/
def Shifts (k : Nat) (make make' : Numbering Matcher) : Prop :=
  ∀ n, make' (n + k) = ((make n).1.shift k, (make n).2 + k)

variable {make make' : Numbering Matcher} {f f' : Matcher → Numbering Matcher}

theorem Shifts.pure (m : Matcher) : Shifts k (pure m) (pure (m.shift k)) := fun _ => rfl

theorem Shifts.bind (h : Shifts k make make') (hf : ∀ m, Shifts k (f m) (f' (m.shift k))) :
    Shifts k (make >>= f) (make' >>= f') := by
  intro n
  show f' (make' (n + k)).1 (make' (n + k)).2 = _
  rw [h n]
  exact hf _ _

theorem Shifts.freshPoint : Shifts k freshPoint freshPoint := by
  intro n
  show (Matcher.once (n + k), n + k + 1) = (Matcher.once (n + k), n + 1 + k)
  rw [Nat.add_right_comm]

theorem Shifts.enclose (pointed : Bool) (m : Matcher) :
    Shifts k (enclose pointed m) (enclose pointed (m.shift k)) := by
  cases pointed with
  | false => exact .pure m
  | true =>
    exact freshPoint.bind fun entry => freshPoint.bind fun exit => .pure (.cat entry (.cat m exit))

theorem Shifts.endWithPoint (pointed : Bool) (m : Matcher) :
    Shifts k (endWithPoint pointed m) (endWithPoint pointed (m.shift k)) := by
  cases pointed with
  | false => exact .pure m
  | true => exact freshPoint.bind fun exit => .pure (.cat m exit)

theorem Shifts.copies (h : Shifts k make make) (n : Nat) :
    Shifts k (copies make n) (copies make n) := by
  fun_induction Pattern.copies make n with
  | case1 => exact .pure .empty
  | case2 => exact h
  | case3 n _ ih => exact h.bind fun first => ih.bind fun more => .pure (.cat first more)

theorem Shifts.optionalCopies (h : Shifts k make make) (n : Nat) :
    Shifts k (optionalCopies pointed make lazy n) (optionalCopies pointed make lazy n) := by
  induction n with
  | zero => exact .pure .empty
  | succ n ih =>
    refine h.bind fun first => ih.bind fun more => ?_
    have hopt : (Matcher.opt (if n = 0 then first else .cat first more) lazy).shift k =
        Matcher.opt (if n = 0 then first.shift k else .cat (first.shift k) (more.shift k))
          lazy := by
      rw [Matcher.shift_opt]
      split <;> rfl
    cases pointed with
    | false =>
      rw [← hopt]
      exact .pure _
    | true =>
      rw [← hopt]
      exact freshPoint.bind fun entry => .pure (.cat entry _)

theorem Shifts.loop (h : Shifts k make make) (lazy : Bool) :
    Shifts k (do return Matcher.plus (← make) lazy) (do return Matcher.plus (← make) lazy) :=
  h.bind fun m => .pure (.plus m lazy)

/-- Copies in front of something else. -/
theorem Shifts.copies_cat (h : Shifts k make make) (h' : Shifts k make' make') (n : Nat) :
    Shifts k (do return .cat (← Pattern.copies make n) (← make'))
      (do return .cat (← Pattern.copies make n) (← make')) :=
  (h.copies n).bind fun first => h'.bind fun second => .pure (.cat first second)

end Numbering

/-- An expression has the same matcher wherever its points are numbered from. -/
theorem Expr.toMatcher_shifts (e : Expr) (k : Nat) (pointed : Bool) :
    Numbering.Shifts k (e.toMatcher pointed) (e.toMatcher pointed) := by
  induction e generalizing pointed with
  | empty =>
    cases pointed with
    | false => exact .pure .empty
    | true => exact .freshPoint
  | literal t =>
    intro n
    show (Matcher.ofText t, n + k) = ((Matcher.ofText t).shift k, n + k)
    rw [Matcher.shift_ofText]
  | set s => exact .pure (.set s)
  | anchor a =>
    cases pointed with
    | false => exact .pure (.anchor a)
    | true => exact Numbering.Shifts.freshPoint.bind fun entry => .pure (.cat entry (.anchor a))
  | group index body ih => exact (ih pointed).bind fun m => .enclose pointed (.group index m)
  | cat a b iha ihb =>
    exact (iha pointed).bind fun first => (ihb pointed).bind fun second => .pure (.cat first second)
  | alt a b iha ihb =>
    exact (iha pointed).bind fun first => (ihb pointed).bind fun second =>
      .enclose pointed (.alt first second)
  | rep body least most lazy ih =>
    cases most with
    | none =>
      unfold toMatcher
      dsimp only
      split
      · have hloop := ((ih true).bind fun m => Numbering.Shifts.enclose true m).loop lazy
        split
        · refine hloop.bind fun m => ?_
          rw [← Matcher.shift_opt]
          exact .enclose pointed _
        · split
          · exact hloop
          · exact (ih pointed).copies_cat hloop (least - 1)
      · split
        · refine (ih pointed).bind fun m => ?_
          cases pointed with
          | false =>
            rw [← Matcher.shift_star]
            exact .pure (.star m lazy)
          | true =>
            refine Numbering.Shifts.freshPoint.bind fun junction => ?_
            have hstar : (Matcher.cat junction (.star (.cat m junction) lazy)).shift k =
                .cat (junction.shift k) (.star (.cat (m.shift k) (junction.shift k)) lazy) := by
              simp [Matcher.shift]
            exact hstar ▸ .pure _
        · have hloop :=
            ((ih pointed).bind fun m => Numbering.Shifts.endWithPoint pointed m).loop lazy
          split
          · exact hloop
          · exact (ih pointed).copies_cat hloop (least - 1)
    | some most =>
      unfold toMatcher
      split
      · exact (ih pointed).copies least
      · refine ((ih pointed).optionalCopies _).bind fun more =>
          (Numbering.Shifts.endWithPoint pointed more).bind fun more => ?_
        split
        · exact .pure more
        · exact ((ih pointed).copies least).bind fun first => .pure (.cat first more)

/-- The second points are the first ones with numbers raised by `k`, and others below `k`. -/
def Visited.Shifted (k : Nat) (v v' : Visited) : Prop :=
  ∀ offset point, v'.contains (offset, point + k) = v.contains (offset, point)

theorem Visited.contains_insert (v : Visited) (offset point offset' point' : Nat) :
    (v.insert (offset, point)).contains (offset', point') = true ↔
      offset = offset' ∧ point = point' ∨ v.contains (offset', point') = true := by
  rw [Std.TreeSet.contains_insert, Bool.or_eq_true]
  simp [compareLex, compareOn, Ordering.then_eq_eq]

theorem Visited.Shifted.insert {v v' : Visited} (h : Shifted k v v') (offset point : Nat) :
    Shifted k (v.insert (offset, point)) (v'.insert (offset, point + k)) := by
  intro offset' point'
  rw [Bool.eq_iff_iff, contains_insert, contains_insert, h, Nat.add_right_cancel_iff]

/-- The same match, or two failures with points that correspond. -/
inductive Way.Shifted (k : Nat) : Way → Way → Prop
  | ok (p : Progress) : Shifted k (.ok p) (.ok p)
  | error {v v' : Visited} (h : v.Shifted k v') : Shifted k (.error v) (.error v')

theorem Way.Shifted.toOption_eq {way way' : Way} (h : Shifted k way way') :
    way'.toOption = way.toOption := by
  cases h <;> rfl

theorem Way.Shifted.orElse {first first' : Way} {second second' : Visited → Way}
    (h : Shifted k first first')
    (h' : ∀ v v', v.Shifted k v' → Shifted k (second v) (second' v')) :
    Shifted k (first.orElse second) (first'.orElse second') := by
  cases h with
  | ok p => exact .ok p
  | error h => exact h' _ _ h

/-- Continuations that end alike wherever they go on from. -/
def Way.ShiftedFrom (k : Nat) (next next' : Progress → Visited → Way) : Prop :=
  ∀ p v v', v.Shifted k v' → Shifted k (next p v) (next' p v')

variable {next next' : Progress → Visited → Way}

theorem iterate_shifted {body body' : (Progress → Visited → Way) → Progress → Visited → Way}
    (hbody : ∀ next next', Way.ShiftedFrom k next next' →
      Way.ShiftedFrom k (body next) (body' next'))
    (hnext : Way.ShiftedFrom k next next') (left : Text) :
    Way.ShiftedFrom k (iterate body lazy next left) (iterate body' lazy next' left) := by
  induction left with
  | nil => exact hbody next next' hnext
  | cons c left ih =>
    intro p v v' h
    refine hbody _ _ (fun q v v' h => ?_) p v v' h
    split
    · exact hnext q v v' h
    · split
      · exact (hnext q v v' h).orElse (ih q)
      · exact (ih q v v' h).orElse (hnext q)

/-- The progress with the group closed that began at an offset. -/
def Progress.close (p : Progress) (index start : Nat) : Progress :=
  { p with groups := p.groups.set index (some ⟨start, p.offset⟩) }

theorem Matcher.run_shift (m : Matcher) (hnext : Way.ShiftedFrom k next next') :
    Way.ShiftedFrom k (m.run next) ((m.shift k).run next') := by
  induction m generalizing next next' with
  | empty => exact hnext
  | set s =>
    intro p v v' h
    simp only [shift, run]
    split
    · exact .error h
    · split
      · exact hnext _ v v' h
      · exact .error h
  | anchor a =>
    intro p v v' h
    simp only [shift, run]
    split
    · exact hnext p v v' h
    · exact .error h
  | group index body ih =>
    intro p v v' h
    exact ih (fun q v v' h => hnext (q.close index p.offset) v v' h) p v v' h
  | cat a b iha ihb => exact iha (ihb hnext)
  | alt a b iha ihb =>
    intro p v v' h
    exact (iha hnext p v v' h).orElse (ihb hnext p)
  | plus body lazy ih =>
    intro p v v' h
    exact iterate_shifted (fun next next' h => ih h) hnext p.rest p v v' h
  | once point =>
    intro p v v' h
    simp only [shift, run, h p.offset point]
    split
    · exact .error h
    · exact hnext p _ _ (h.insert p.offset point)

/-- Where points are numbered from does not matter to a match, if those passed before have lower
numbers. -/
theorem Expr.toOption_start_toMatcher (e : Expr) (pointed : Bool) (p : Progress) {v : Visited}
    (hv : ∀ offset point, v.contains (offset, point + k) = false) :
    ((e.toMatcher pointed k).1.start p v).toOption =
      ((e.toMatcher pointed 0).1.start p {}).toOption := by
  have hmatcher : (e.toMatcher pointed k).1 = (e.toMatcher pointed 0).1.shift k := by
    have hshift := e.toMatcher_shifts k pointed 0
    rw [Nat.zero_add] at hshift
    rw [hshift]
  have hnext : Way.ShiftedFrom k (fun q _ => .ok q) (fun q _ => .ok q) := fun q _ _ _ => .ok q
  have hrun := (e.toMatcher pointed 0).1.run_shift hnext p {} v fun offset point => by
    rw [hv]
    simp
  rw [hmatcher, Matcher.start, Matcher.start]
  exact hrun.toOption_eq

end ModalLexer.Pattern
