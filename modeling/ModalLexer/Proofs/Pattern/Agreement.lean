import ModalLexer.Proofs.Pattern.Parts

/-! # How far a match looks

A matcher whose sets do not contain the next character stops before it. So two texts that begin
alike and go on with such characters are matched alike, if the conditions of the matcher cannot tell
what comes behind the common beginning either.
-/

namespace ModalLexer.Pattern

variable {m : Matcher} {p q : Progress} {r r' : Text} {v : Visited}
  {next next' : Progress → Visited → Way}

/-- The same place, with a text behind what is left. -/
def Progress.extend (p : Progress) (t : Text) : Progress := { p with rest := p.rest ++ t }

/-- The second place is reached from the first one by reading. -/
def Progress.Advances (p q : Progress) : Prop :=
  ∃ u, p.rest = u ++ q.rest ∧ q.offset = p.offset + u.byteSize

theorem Progress.Advances.refl (p : Progress) : p.Advances p := ⟨[], rfl, rfl⟩

theorem Progress.Advances.trans {q' : Progress} (h : p.Advances q) (h' : q.Advances q') :
    p.Advances q' := by
  obtain ⟨u, hu, hsize⟩ := h
  obtain ⟨w, hw, hsize'⟩ := h'
  refine ⟨u ++ w, by simp [hu, hw], ?_⟩
  rw [hsize', hsize, Text.byteSize_append, Nat.add_assoc]

theorem Progress.Advances.length_lt (h : p.Advances q) (hne : q.offset ≠ p.offset) :
    q.rest.length < p.rest.length := by
  obtain ⟨u, hu, hsize⟩ := h
  cases u with
  | nil => exact absurd (by simpa using hsize) hne
  | cons c u =>
    rw [hu, List.length_append, List.length_cons]
    omega

theorem Progress.Advances.offset_eq (h : p.Advances q) (hp : p.rest = []) :
    q.offset = p.offset :=
  Decidable.byContradiction fun hne => by simpa [hp] using h.length_lt hne

/-- Two ways end alike, apart from the text that is left behind a common beginning. -/
inductive Way.Agree (r r' : Text) : Way → Way → Prop
  | ok (q : Progress) : Agree r r' (.ok (q.extend r)) (.ok (q.extend r'))
  | error (v : Visited) : Agree r r' (.error v) (.error v)

theorem Way.Agree.orElse {first first' : Way} {second second' : Visited → Way}
    (h : Agree r r' first first') (h' : ∀ v, Agree r r' (second v) (second' v)) :
    Agree r r' (first.orElse second) (first'.orElse second') := by
  cases h with
  | ok q => exact .ok q
  | error v => exact h' v

/-- Two continuations agree wherever reading leads from `p`. -/
def Way.AgreeFrom (r r' : Text) (p : Progress) (next next' : Progress → Visited → Way) : Prop :=
  ∀ q v, p.Advances q → Agree r r' (next (q.extend r) v) (next' (q.extend r') v)

theorem Way.AgreeFrom.advance (h : AgreeFrom r r' p next next') (hpq : p.Advances q) :
    AgreeFrom r r' q next next' := fun q' v hq' => h q' v (hpq.trans hq')

/-- The number of repetitions that are admitted does not matter if it is great enough. -/
theorem iterate_agree {lazy : Bool} {left left' : Text}
    (hbody : ∀ next next' p v, Way.AgreeFrom r r' p next next' →
      Way.Agree r r' (m.run next (p.extend r) v) (m.run next' (p.extend r') v))
    (hnext : Way.AgreeFrom r r' p next next') (hleft : p.rest.length ≤ left.length)
    (hleft' : p.rest.length ≤ left'.length) :
    Way.Agree r r' (iterate m.run lazy next left (p.extend r) v)
      (iterate m.run lazy next' left' (p.extend r') v) := by
  induction left generalizing left' p v with
  | nil =>
    have hstay : ∀ q, p.Advances q → q.offset = p.offset :=
      fun q hq => hq.offset_eq (List.eq_nil_of_length_eq_zero (Nat.le_zero.1 hleft))
    cases left' with
    | nil => exact hbody _ _ p v hnext
    | cons c' left' =>
      refine hbody _ _ p v fun q v hq => ?_
      have hoffset : (q.extend r').offset = (p.extend r').offset := hstay q hq
      rw [if_pos hoffset]
      exact hnext q v hq
  | cons c left ih =>
    cases left' with
    | nil =>
      refine hbody _ _ p v fun q v hq => ?_
      have hoffset : (q.extend r).offset = (p.extend r).offset :=
        hq.offset_eq (List.eq_nil_of_length_eq_zero (Nat.le_zero.1 hleft'))
      rw [if_pos hoffset]
      exact hnext q v hq
    | cons c' left' =>
      refine hbody _ _ p v fun q v hq => ?_
      by_cases hoffset : q.offset = p.offset
      · rw [if_pos (show (q.extend r).offset = (p.extend r).offset from hoffset),
          if_pos (show (q.extend r').offset = (p.extend r').offset from hoffset)]
        exact hnext q v hq
      · have hshort := hq.length_lt hoffset
        simp only [List.length_cons] at hleft hleft'
        have hagain : ∀ v, Way.Agree r r' (iterate m.run lazy next left (q.extend r) v)
            (iterate m.run lazy next' left' (q.extend r') v) := fun v =>
          ih (hnext.advance hq) (by omega) (by omega)
        rw [if_neg (show ¬ (q.extend r).offset = (p.extend r).offset from hoffset),
          if_neg (show ¬ (q.extend r').offset = (p.extend r').offset from hoffset)]
        split
        · exact (hnext q v hq).orElse hagain
        · exact (hagain v).orElse fun v => hnext q v hq

namespace Matcher

def anchors : Matcher → List Anchor
  | anchor a => [a]
  | group _ body | plus body _ => body.anchors
  | cat a b | alt a b => a.anchors ++ b.anchors
  | empty | set _ | once _ => []

/-- The matcher reads nothing of the text. -/
def StopsBefore (m : Matcher) (r : Text) : Prop :=
  ∀ c, r.head? = some c → ∀ s ∈ m.sets, s.contains c = false

/-- No condition of the matcher tells the texts from each other, whatever stands in front of them.
-/
def Confuses (m : Matcher) (r r' : Text) : Prop :=
  ∀ a ∈ m.anchors, ∀ before u, a.holds before (u ++ r) = a.holds before (u ++ r')

variable {m' : Matcher}

theorem StopsBefore.mono (h : m.StopsBefore r) (hsub : m'.sets ⊆ m.sets) : m'.StopsBefore r :=
  fun c hc s hs => h c hc s (hsub hs)

theorem Confuses.mono (h : m.Confuses r r') (hsub : m'.anchors ⊆ m.anchors) : m'.Confuses r r' :=
  fun a ha => h a (hsub ha)

theorem run_set_of_stopsBefore {s : CharSet} (h : (set s).StopsBefore r) (hp : p.rest = []) :
    (set s).run next (p.extend r) v = .error v := by
  have hrest : (p.extend r).rest = r := by simp [Progress.extend, hp]
  refine run_set_of_stops ?_
  rw [hrest]
  exact fun c hc => h c hc s (List.mem_singleton_self s)

/-- Runs on texts that agree as far as the matcher looks end alike. -/
theorem run_agree (hr : m.StopsBefore r) (hr' : m.StopsBefore r') (hanchors : m.Confuses r r')
    (hnext : Way.AgreeFrom r r' p next next') (v : Visited) :
    Way.Agree r r' (m.run next (p.extend r) v) (m.run next' (p.extend r') v) := by
  induction m generalizing next next' p v with
  | empty => exact hnext p v (.refl p)
  | set s =>
    cases hp : p.rest with
    | nil =>
      rw [run_set_of_stopsBefore hr hp, run_set_of_stopsBefore hr' hp]
      exact .error v
    | cons c rest =>
      have hrest : ∀ t, (p.extend t).rest = c :: (rest ++ t) := fun t => by
        simp [Progress.extend, hp]
      simp only [run, hrest]
      split
      · exact hnext { p with before := some c, rest, offset := p.offset + c.utf8Size } v
          ⟨[c], by simp [hp], by simp⟩
      · exact .error v
  | anchor a =>
    have ha : a.holds (p.extend r).before (p.extend r).rest
        = a.holds (p.extend r').before (p.extend r').rest :=
      hanchors a (List.mem_singleton_self a) p.before p.rest
    simp only [run, ha]
    split
    · exact hnext p v (.refl p)
    · exact .error v
  | group index body ih =>
    exact ih hr hr' hanchors
      (fun q v hq => hnext { q with groups := q.groups.set index (some ⟨p.offset, q.offset⟩) } v hq)
      v
  | cat a b iha ihb =>
    refine iha (hr.mono (List.subset_append_left _ _)) (hr'.mono (List.subset_append_left _ _))
      (hanchors.mono (List.subset_append_left _ _)) (fun q v hq => ?_) v
    exact ihb (hr.mono (List.subset_append_right _ _)) (hr'.mono (List.subset_append_right _ _))
      (hanchors.mono (List.subset_append_right _ _)) (hnext.advance hq) v
  | alt a b iha ihb =>
    refine Way.Agree.orElse ?_ fun v => ?_
    · exact iha (hr.mono (List.subset_append_left _ _)) (hr'.mono (List.subset_append_left _ _))
        (hanchors.mono (List.subset_append_left _ _)) hnext v
    · exact ihb (hr.mono (List.subset_append_right _ _)) (hr'.mono (List.subset_append_right _ _))
        (hanchors.mono (List.subset_append_right _ _)) hnext v
  | plus body lazy ih =>
    refine iterate_agree (fun next next' p v hnext => ih hr hr' hanchors hnext v) hnext ?_ ?_
    · simp [Progress.extend]
    · simp [Progress.extend]
  | once point =>
    simp only [run]
    split
    · next h =>
      rw [if_pos (show v.contains ((p.extend r').offset, point) = true from h)]
      exact .error v
    · next h =>
      rw [if_neg (show ¬ v.contains ((p.extend r').offset, point) = true from h)]
      exact hnext p _ (.refl p)

end Matcher

/-- A condition looks at most at the next character. -/
theorem Anchor.holds_congr (a : Anchor) (before : Option Char) (h : r.head? = r'.head?) :
    a.holds before r = a.holds before r' := by
  have hnil : r = [] ↔ r' = [] := by
    rw [← List.head?_eq_none_iff, h, List.head?_eq_none_iff]
  cases a <;> simp only [holds, h, hnil]

theorem Matcher.confuses_of_head? (m : Matcher) (h : r.head? = r'.head?) : m.Confuses r r' := by
  refine fun a _ before u => a.holds_congr before ?_
  rw [List.head?_append, List.head?_append, h]

/-- Texts that agree as far as a pattern looks have the same match. -/
theorem search_agree {p : Pattern} {body : Matcher} (hbody : p.body? = some body)
    (hr : body.StopsBefore r) (hr' : body.StopsBefore r') (hanchors : body.Confuses r r')
    (u : Text) : p.search (u ++ r) = p.search (u ++ r') := by
  have hrun : Way.Agree r r' (body.start ((p.start u).extend r) {})
      (body.start ((p.start u).extend r') {}) :=
    body.run_agree hr hr' hanchors (fun q _ _ => .ok q) {}
  have hstart : ∀ t, (p.start u).extend t = p.start (u ++ t) := fun t => rfl
  rw [search_eq hbody, search_eq hbody, ← hstart, ← hstart]
  generalize body.start ((p.start u).extend r) {} = w at hrun
  generalize body.start ((p.start u).extend r') {} = w' at hrun
  cases hrun with
  | ok q => rfl
  | error v => rfl

end ModalLexer.Pattern
