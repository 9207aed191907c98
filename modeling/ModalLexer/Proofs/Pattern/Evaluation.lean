import ModalLexer.Proofs.Pattern.Extent

/-! # Matching in terms of texts

A matcher of characters only depends on the text in front of it, so that its run can be followed in
terms of the texts that are left. There a loop over a set of characters goes to the end of their
run, unless what follows could go on earlier only, and a lazy loop to the first place from which
what follows can go on.
-/

namespace ModalLexer.Pattern

variable {s : CharSet} {m body : Matcher} {k : Text → Option Text} {c : Char} {t u rest : Text}

/-- The repetitions of a loop, with the texts in the places of the progresses. -/
def repeat? (body : (Text → Option Text) → Text → Option Text) (lazy : Bool)
    (next : Text → Option Text) : (left : Text) → Text → Option Text
  | [], t => body next t
  | _ :: left, t =>
    body
      (fun u =>
        if u.byteSize = t.byteSize then next u
        else if lazy then (next u).or (repeat? body lazy next left u)
        else (repeat? body lazy next left u).or (next u))
      t

namespace Matcher

/-- Where `next` arrives on the first way through the matcher on which it succeeds. -/
def rest? : Matcher → (Text → Option Text) → Text → Option Text
  | empty, next, t => next t
  | set _, _, [] => none
  | set s, next, c :: t => if s.contains c then next t else none
  | group _ body, next, t => body.rest? next t
  | cat a b, next, t => a.rest? (b.rest? next) t
  | alt a b, next, t => (a.rest? next t).or (b.rest? next t)
  | plus body lazy, next, t => repeat? body.rest? lazy next t t
  | anchor _, _, _ | once _, _, _ => none

/-- The matcher looks at nothing but the characters that it reads. -/
def plain : Matcher → Bool
  | empty | set _ => true
  | group _ body | plus body _ => body.plain
  | cat a b | alt a b => a.plain && b.plain
  | anchor _ | once _ => false

end Matcher

/-- At the places of a text of `n` bytes, `next` leaves the text that `k` says. -/
def Leaves (n : Nat) (next : Progress → Visited → Way) (k : Text → Option Text) : Prop :=
  ∀ p v, p.offset + p.rest.byteSize = n → (next p v).toOption.map Progress.rest = k p.rest

theorem toOption_orElse {first : Way} {second : Visited → Way} {a b : Option Text}
    (hfirst : first.toOption.map Progress.rest = a)
    (hsecond : ∀ v, (second v).toOption.map Progress.rest = b) :
    (first.orElse second).toOption.map Progress.rest = a.or b := by
  subst hfirst
  cases first with
  | ok p => rfl
  | error v => exact hsecond v

theorem Leaves.iterate {n : Nat} {next : Progress → Visited → Way} {lazy : Bool}
    (hbody : ∀ next k, Leaves n next k → Leaves n (body.run next) (body.rest? k))
    (hnext : Leaves n next k) (left : Text) :
    Leaves n (iterate body.run lazy next left) (repeat? body.rest? lazy k left) := by
  induction left with
  | nil => exact hbody next k hnext
  | cons c left ih =>
    intro p v hp
    refine hbody _ _ ?_ p v hp
    intro q w hq
    have hplace : q.offset = p.offset ↔ q.rest.byteSize = p.rest.byteSize := by omega
    simp only [hplace]
    split
    · exact hnext q w hq
    split
    · exact toOption_orElse (hnext q w hq) fun v => ih q v hq
    · exact toOption_orElse (ih q w hq) fun v => hnext q v hq

/-- The run of a plain matcher is followed by the texts that are left. -/
theorem Leaves.run {n : Nat} {next : Progress → Visited → Way} (hm : m.plain = true)
    (hnext : Leaves n next k) : Leaves n (m.run next) (m.rest? k) := by
  induction m generalizing next k with
  | empty => exact hnext
  | set s =>
    intro p v hp
    cases hrest : p.rest with
    | nil => simp only [Matcher.run, hrest, Matcher.rest?]; rfl
    | cons c rest =>
      simp only [Matcher.run, hrest, Matcher.rest?]
      split
      · refine hnext _ v ?_
        rw [hrest, Text.byteSize_cons] at hp
        simp only
        omega
      · rfl
  | group index body ih =>
    have hgroup : ∀ p : Progress, Leaves n
        (fun q => next { q with groups := q.groups.set index (some ⟨p.offset, q.offset⟩) }) k := by
      intro p q v hq
      exact hnext _ v hq
    intro p v hp
    exact ih hm (hgroup p) p v hp
  | cat a b iha ihb =>
    obtain ⟨ha, hb⟩ := Bool.and_eq_true_iff.1 hm
    exact iha ha (ihb hb hnext)
  | alt a b iha ihb =>
    obtain ⟨ha, hb⟩ := Bool.and_eq_true_iff.1 hm
    intro p v hp
    exact toOption_orElse (iha ha hnext p v hp) fun w => ihb hb hnext p w hp
  | plus body lazy ih =>
    intro p v hp
    exact Leaves.iterate (fun _ _ h => ih hm h) hnext p.rest p v hp
  | anchor | once => cases hm

section

variable {p : Pattern} {bodies : List Matcher}

theorem eq_of_append_eq {v w : Text} (h : u ++ v = t ++ w) (hsize : u.byteSize = t.byteSize) :
    u = t ∧ v = w := by
  have hsplit := Text.splitBytes?_byteSize t w
  rw [← h, ← hsize, Text.splitBytes?_byteSize] at hsplit
  cases hsplit
  exact ⟨rfl, rfl⟩

theorem leaves_start (hm : m.plain = true) (p : Pattern) (t : Text) :
    (m.start (p.start t) {}).toOption.map Progress.rest = m.rest? some t :=
  Leaves.run hm (fun _ _ _ => rfl) (p.start t) {} (Nat.zero_add _)

theorem search_of_rest?_eq_none (hbody : p.body? = some m) (hm : m.plain = true)
    (h : m.rest? some t = none) : p.search t = none := by
  have hstart := leaves_start hm p t
  rw [h, Option.map_eq_none_iff] at hstart
  rw [search_eq hbody, hstart, Option.map_none]

theorem search_of_rest? (hp : p.parts? = some bodies) (hbody : p.body? = some m)
    (hm : m.plain = true) (h : m.rest? some t = some rest) :
    ∃ parts, t = parts.flatten ++ rest ∧ List.Forall₂ Matcher.Matches bodies parts ∧
      p.search t = some (.ofParts p.groups parts) := by
  have hstart := leaves_start hm p t
  rw [h] at hstart
  obtain ⟨last, hlast, rfl⟩ := Option.map_eq_some_iff.1 hstart
  have hrun : m.start (p.start t) {} = .ok last := by
    cases hway : m.start (p.start t) {} with
    | ok q => rw [hway] at hlast; exact congrArg Except.ok (Option.some.inj hlast)
    | error v => rw [hway] at hlast; cases hlast
  have hsearch : p.search t
      = some { span := ⟨0, last.offset⟩, groups := last.groups.tail } := by
    rw [search_eq hbody, hlast, Option.map_some]
  obtain ⟨u, q, -, hread, hq⟩ := Matcher.reads_of_run hrun
  cases hq
  obtain ⟨hrest, hoffset⟩ := hread.advances
  obtain ⟨parts, behind, ht, hparts, hcaptures⟩ := parts_of_search hp hsearch
  have hsize : Text.byteSize parts.flatten = u.byteSize := by
    have hspan := congrArg (fun captures => captures.span.stop) hcaptures
    simp only [Captures.ofParts, hoffset, start, Nat.zero_add] at hspan
    exact hspan.symm
  obtain ⟨-, rfl⟩ := eq_of_append_eq (ht.symm.trans hrest) hsize
  exact ⟨parts, ht, hparts, hsearch.trans (congrArg some hcaptures)⟩

end

namespace Matcher

@[simp] theorem rest?_empty : empty.rest? k t = k t := rfl

@[simp] theorem rest?_set_nil : (set s).rest? k [] = none := rfl

@[simp] theorem rest?_set_cons :
    (set s).rest? k (c :: t) = if s.contains c = true then k t else none := rfl

@[simp] theorem rest?_cat {a b : Matcher} : (cat a b).rest? k t = a.rest? (b.rest? k) t := rfl

@[simp] theorem rest?_alt {a b : Matcher} :
    (alt a b).rest? k t = (a.rest? k t).or (b.rest? k t) := rfl

@[simp] theorem rest?_opt : (opt m false).rest? k t = (m.rest? k t).or (k t) := rfl

@[simp] theorem rest?_plus_nil {lazy : Bool} : (plus (set s) lazy).rest? k [] = none := rfl

/-- A character read makes the text shorter, so that the loop goes on. -/
theorem rest?_plus_cons {lazy : Bool} : (plus (set s) lazy).rest? k (c :: t)
    = if s.contains c = true then (star (set s) lazy).rest? k t else none := by
  have hne : t.byteSize ≠ Text.byteSize (c :: t) := by
    have := c.utf8Size_pos
    rw [Text.byteSize_cons]
    omega
  simp only [rest?, repeat?, if_neg hne]
  cases lazy <;> rfl

/-- If `k` can go on from somewhere in a run of characters of the set, it can from the end of the
run. -/
def Yields (s : CharSet) (k : Text → Option Text) : Prop :=
  ∀ t, (k t).isSome = true → (k (t.dropWhile s.contains)).isSome = true

theorem yields_of_isSome (h : ∀ t, (k t).isSome = true) : Yields s k :=
  fun t _ => h (t.dropWhile s.contains)

/-- What cannot begin with a character of the set leaves the whole run in front of it. -/
theorem yields_of_stops (h : ∀ c t, s.contains c = true → k (c :: t) = none) : Yields s k := by
  intro t ht
  cases t with
  | nil => exact ht
  | cons c t =>
    cases hc : s.contains c with
    | true =>
      rw [h c t hc] at ht
      cases ht
    | false =>
      rw [List.dropWhile_cons_of_neg (by simp [hc])]
      exact ht

theorem rest?_star (h : Yields s k) (t : Text) :
    (star (set s) false).rest? k t = k (t.dropWhile s.contains) := by
  induction t with
  | nil => rfl
  | cons c t ih =>
    rw [star, rest?_opt, rest?_plus_cons]
    cases hc : s.contains c with
    | false =>
      rw [if_neg (by simp), Option.none_or, List.dropWhile_cons_of_neg (by simp [hc])]
    | true =>
      have hyields := h (c :: t)
      rw [List.dropWhile_cons_of_pos hc] at hyields ⊢
      rw [if_pos rfl, ih]
      cases hend : k (t.dropWhile s.contains) with
      | some rest => rfl
      | none =>
        rw [hend] at hyields
        rw [Option.none_or]
        exact Option.not_isSome_iff_eq_none.1 fun hsome => Bool.noConfusion (hyields hsome)

theorem rest?_plus (h : Yields s k) (c : Char) (t : Text) : (plus (set s) false).rest? k (c :: t)
    = if s.contains c = true then k (t.dropWhile s.contains) else none := by
  rw [rest?_plus_cons, rest?_star h]

theorem rest?_few_nil : (few s).rest? k [] = k [] := Option.or_none

theorem rest?_few_cons : (few s).rest? k (c :: t)
    = (k (c :: t)).or (if s.contains c = true then (few s).rest? k t else none) :=
  congrArg (k (c :: t)).or rest?_plus_cons

end Matcher

end ModalLexer.Pattern
