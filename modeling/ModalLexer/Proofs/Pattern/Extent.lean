import ModalLexer.Proofs.CharSet
import ModalLexer.Proofs.Pattern.Certainty

/-! # How far a match goes

The ways through a matcher read different stretches of the text, and the first of them that succeeds
is the match. A greedy loop over a set at the end of a matcher reads all characters of the set that
come next. A lazy loop stops at the first place at which what follows it succeeds.
-/

namespace ModalLexer.Pattern

variable {m : Matcher} {s : CharSet} {p q r : Progress} {v : Visited}
  {next : Progress → Visited → Way} {u rest : Text}

/-- On the text `u` followed by `rest` the matcher reads `u`. -/
def Matcher.Takes (m : Matcher) (u rest : Text) : Prop :=
  ∃ p v last, m.start p v = .ok last ∧ p.rest = u ++ rest ∧ last.rest = rest

theorem Matcher.Takes.matches (h : m.Takes u rest) : m.Matches u := by
  obtain ⟨p, v, last, hrun, hrest, rfl⟩ := h
  obtain ⟨w, q, v', hread, hq⟩ := reads_of_run hrun
  cases hq
  have hw : w ++ last.rest = u ++ last.rest := hread.advances.1.symm.trans hrest
  obtain rfl : w = u := List.append_cancel_right hw
  exact ⟨p, last, hread⟩

/-- What a search finds is what the matcher behind the anchor takes. -/
theorem takes_of_search {p : Pattern} {parts : List Text} (hbody : p.body? = some m)
    (h : p.search (parts.flatten ++ rest) = some (.ofParts p.groups parts)) :
    m.Takes parts.flatten rest := by
  rw [search_eq hbody] at h
  obtain ⟨last, hlast, hcaptures⟩ := Option.map_eq_some_iff.1 h
  cases hrun : m.start (p.start (parts.flatten ++ rest)) {} with
  | error v => rw [hrun] at hlast; cases hlast
  | ok r =>
    rw [hrun] at hlast
    cases hlast
    obtain ⟨u, q, v', hread, hq⟩ := Matcher.reads_of_run hrun
    cases hq
    obtain ⟨hrest, hoffset⟩ := hread.advances
    have hoffset : last.offset = u.byteSize := by simpa [start] using hoffset
    have hsize : last.offset = Text.byteSize parts.flatten :=
      congrArg (fun captures : Captures => captures.span.stop) hcaptures
    -- Both split the text at the same byte.
    have hsplit : Text.splitBytes? last.offset (parts.flatten ++ rest) = some (u, last.rest) := by
      rw [show parts.flatten ++ rest = u ++ last.rest from hrest, hoffset,
        Text.splitBytes?_byteSize]
    rw [hsize, Text.splitBytes?_byteSize] at hsplit
    cases hsplit
    exact ⟨_, _, last, hrun, rfl, rfl⟩

theorem Matcher.Matches.of_cat {a b : Matcher} (h : (cat a b).Matches u) :
    ∃ v w, u = v ++ w ∧ a.Matches v ∧ b.Matches w := by
  obtain ⟨p, q, h⟩ := h
  cases h with
  | cat hfirst hsecond => exact ⟨_, _, rfl, ⟨_, _, hfirst⟩, ⟨_, _, hsecond⟩⟩

variable {lazy : Bool} {left : Text} {c d : Char}

theorem iterate_of_stops (h : Stops s p.rest) :
    iterate (Matcher.set s).run lazy next left p v = .error v := by
  cases left <;> exact run_set_of_stops h

/-- Behind a character of the set the loop ends or goes on, in this order if it is lazy. -/
theorem iterate_of_contains (hp : p.rest = c :: rest) (hc : s.contains c = true) :
    iterate (Matcher.set s).run lazy next (d :: left) p v
      = if lazy then (next (p.read c rest) v).orElse
          (iterate (Matcher.set s).run lazy next left (p.read c rest))
        else (iterate (Matcher.set s).run lazy next left (p.read c rest) v).orElse
          (next (p.read c rest)) := by
  have hoffset : (p.read c rest).offset ≠ p.offset := by
    have hpos := c.utf8Size_pos
    simp only [Progress.read]
    omega
  rw [iterate, run_set_of_contains hp hc, if_neg hoffset]

/-- The set of which a matcher reads as many characters as come next before it ends. -/
def Matcher.final? : Matcher → Option CharSet
  | plus (set s) false => some s
  | alt (plus (set s) false) empty => some s
  | cat _ b => b.final?
  | _ => none

/-- A loop over a set that is asked nothing more fails only where no character of the set comes
next. -/
theorem stops_of_iterate_error {v' : Visited}
    (h : iterate (Matcher.set s).run lazy (fun q _ => .ok q) left p v = .error v') :
    Stops s p.rest := by
  rcases stops_or_exists s p.rest with hstops | ⟨c, rest, hp, hc⟩
  · exact hstops
  · obtain ⟨r, hr⟩ : ∃ r,
        iterate (Matcher.set s).run lazy (fun q _ => .ok q) left p v = .ok r := by
      refine Matcher.iterate_certain (fun q v => ⟨q, rfl⟩) fun next hnext => ?_
      exact Matcher.run_of_leads (m := .set s) (List.mem_singleton_self s) hc hp hnext v
    rw [h] at hr
    cases hr

theorem stops_of_iterate (hleft : p.rest.length ≤ left.length)
    (h : iterate (Matcher.set s).run false (fun q _ => .ok q) left p v = .ok r) :
    Stops s r.rest := by
  induction left generalizing p v with
  | nil =>
    have hnil : p.rest = [] := List.length_eq_zero_iff.1 (Nat.le_zero.1 hleft)
    rw [iterate_of_stops (by rw [hnil]; exact nofun)] at h
    cases h
  | cons d left ih =>
    rcases stops_or_exists s p.rest with hstops | ⟨c, rest, hp, hc⟩
    · rw [iterate_of_stops hstops] at h
      cases h
    · rw [iterate_of_contains hp hc, if_neg Bool.false_ne_true] at h
      -- The loop goes on behind the character, or it ends there because it cannot.
      cases hmore : iterate (Matcher.set s).run false (fun q _ => .ok q) left (p.read c rest) v with
      | ok r' =>
        rw [hmore] at h
        cases h
        refine ih ?_ hmore
        rw [hp] at hleft
        exact Nat.le_of_succ_le_succ hleft
      | error v' =>
        rw [hmore] at h
        cases h
        exact stops_of_iterate_error hmore

theorem Matcher.stops_of_start (hm : m.final? = some s) (h : m.start p v = .ok r) :
    Stops s r.rest := by
  fun_induction final? m generalizing p v with
  | case1 s' =>
    cases hm
    exact stops_of_iterate (Nat.le_refl _) h
  | case2 s' =>
    cases hm
    have h : (iterate (set s).run false (fun q _ => .ok q) p.rest p v).orElse (fun _ => .ok p)
        = .ok r := h
    cases hloop : iterate (set s).run false (fun q _ => .ok q) p.rest p v with
    | ok r' =>
      rw [hloop] at h
      cases h
      exact stops_of_iterate (Nat.le_refl _) hloop
    | error v' =>
      rw [hloop] at h
      cases h
      exact stops_of_iterate_error hloop
  | case3 a b ih =>
    have hrun : a.run (b.run fun q _ => .ok q) p v = .ok r := h
    obtain ⟨u, q, v', -, hq⟩ := reads_of_run hrun
    exact ih hm hq
  | case4 => cases hm

theorem Matcher.Takes.stops (h : m.Takes u rest) (hm : m.final? = some s) : Stops s rest := by
  obtain ⟨p, v, last, hrun, -, rfl⟩ := h
  exact stops_of_start hm hrun

/-- As few characters of the set as possible. -/
def Matcher.few (s : CharSet) : Matcher := alt empty (plus (set s) true)

theorem iterate_lazy (good : Text → Prop)
    (hgood : ∀ q v, good q.rest → ∃ r, next q v = .ok r)
    (h : iterate (Matcher.set s).run true next left p v = .ok r) :
    ∃ u q v', p.rest = u ++ q.rest ∧ next q v' = .ok r ∧
      ∀ front back, front ≠ [] → p.rest = front ++ back → good back → u.length ≤ front.length := by
  induction left generalizing p v with
  | nil =>
    rcases stops_or_exists s p.rest with hstops | ⟨c, rest, hp, hc⟩
    · rw [iterate_of_stops hstops] at h
      cases h
    · rw [iterate, run_set_of_contains hp hc] at h
      refine ⟨[c], p.read c rest, v, hp, h, ?_⟩
      intro front back hfront _ _
      exact List.length_pos_iff.2 hfront
  | cons d left ih =>
    rcases stops_or_exists s p.rest with hstops | ⟨c, rest, hp, hc⟩
    · rw [iterate_of_stops hstops] at h
      cases h
    · rw [iterate_of_contains hp hc, if_pos rfl] at h
      cases hnow : next (p.read c rest) v with
      | ok r' =>
        rw [hnow] at h
        cases h
        refine ⟨[c], p.read c rest, v, hp, hnow, ?_⟩
        intro front back hfront _ _
        exact List.length_pos_iff.2 hfront
      | error v' =>
        rw [hnow] at h
        obtain ⟨u, q, v'', hu, hq, hleast⟩ := ih h
        refine ⟨c :: u, q, v'', by rw [hp, List.cons_append, ← hu]; rfl, hq, ?_⟩
        intro front back hfront hsplit hback
        obtain ⟨e, front, rfl⟩ := List.exists_cons_of_ne_nil hfront
        obtain ⟨rfl, hbehind⟩ := List.cons.inj (hp.symm.trans hsplit)
        -- The loop has gone on because it could not end right behind the character.
        have hmore : front ≠ [] := by
          rintro rfl
          have hnil : (p.read c rest).rest = back := hbehind
          obtain ⟨r', hr'⟩ := hgood (p.read c rest) v (hnil ▸ hback)
          rw [hnow] at hr'
          cases hr'
        exact Nat.succ_le_succ (hleast front back hmore hbehind hback)

/-- Of the places where `next` can be seen to succeed, a lazy loop goes to the first. -/
theorem few_reads_least (good : Text → Prop)
    (hgood : ∀ q v, good q.rest → ∃ r, next q v = .ok r)
    (h : (Matcher.few s).run next p v = .ok r) :
    ∃ u q v', p.rest = u ++ q.rest ∧ next q v' = .ok r ∧
      ∀ front back, p.rest = front ++ back → good back → u.length ≤ front.length := by
  simp only [Matcher.few, Matcher.run] at h
  cases hnow : next p v with
  | ok r' =>
    rw [hnow] at h
    cases h
    exact ⟨[], p, v, rfl, hnow, fun _ _ _ _ => Nat.zero_le _⟩
  | error v' =>
    rw [hnow] at h
    obtain ⟨u, q, v'', hu, hq, hleast⟩ := iterate_lazy good hgood h
    refine ⟨u, q, v'', hu, hq, ?_⟩
    intro front back hsplit hback
    refine hleast front back ?_ hsplit hback
    rintro rfl
    obtain ⟨r', hr'⟩ := hgood p v (by rw [hsplit]; exact hback)
    rw [hnow] at hr'
    cases hr'

def Matcher.pair (c d : Char) : Matcher := cat (set (.single c)) (set (.single d))

theorem pair_reads {c d : Char} (h : (Matcher.pair c d).run next p v = .ok r) :
    ∃ q v', p.rest = c :: d :: q.rest ∧ next q v' = .ok r := by
  obtain ⟨u, q, v', hread, hq⟩ := Matcher.reads_of_run h
  cases hread with
  | cat hfirst hsecond =>
    cases hfirst with
    | set hrest hc =>
      cases hsecond with
      | set hrest' hd =>
        simp only [CharSet.contains_single, decide_eq_true_eq] at hc hd
        subst hc hd
        exact ⟨_, v', hrest.trans (congrArg _ hrest'), hq⟩

theorem pair_certain {c d : Char} {t : Text} (hnext : Way.Certain next)
    (hp : p.rest = c :: d :: t) (v : Visited) : ∃ r, (Matcher.pair c d).run next p v = .ok r := by
  simp only [Matcher.pair, Matcher.run, hp, CharSet.contains_single, decide_true, if_true]
  exact hnext _ v

theorem Matcher.Matches.of_pair {c d : Char} (h : (pair c d).Matches u) : u = [c, d] := by
  obtain ⟨p, q, h⟩ := h
  cases h with
  | cat hfirst hsecond =>
    cases hfirst with
    | set _ hc =>
      cases hsecond with
      | set _ hd =>
        simp only [CharSet.contains_single, decide_eq_true_eq] at hc hd
        rw [hc, hd]
        rfl

/-- Between two pairs of characters a lazy loop reads up to the first place of the second pair. -/
theorem Matcher.Takes.between {a b c d : Char}
    (h : (cat (pair a b) (cat (few s) (pair c d))).Takes u rest) :
    ∃ body, u = a :: b :: (body ++ [c, d]) ∧ ∀ front back,
      body ++ c :: d :: rest = front ++ c :: d :: back → body.length ≤ front.length := by
  obtain ⟨p, v, last, hrun, hrest, rfl⟩ := h
  have hrun : (pair a b).run ((cat (few s) (pair c d)).run fun q _ => .ok q) p v = .ok last := hrun
  obtain ⟨q, v', hq, hbehind⟩ := pair_reads hrun
  have hgood : ∀ (q : Progress) (v : Visited), (∃ back, q.rest = c :: d :: back) →
      ∃ r, (pair c d).run (fun q _ => .ok q) q v = .ok r := by
    rintro q v ⟨back, hback⟩
    exact pair_certain (fun q v => ⟨q, rfl⟩) hback v
  obtain ⟨body, q', v'', hbody, hend, hleast⟩ := few_reads_least
    (fun t => ∃ back, t = c :: d :: back) hgood hbehind
  obtain ⟨q'', v''', hclose, hlast⟩ := pair_reads hend
  cases hlast
  rw [hclose] at hbody
  refine ⟨body, ?_, ?_⟩
  · rw [hq, hbody] at hrest
    have hall : a :: b :: (body ++ [c, d]) ++ last.rest = u ++ last.rest := by
      rw [← hrest]
      simp
    exact (List.append_cancel_right hall).symm
  · intro front back hsplit
    exact hleast front _ (hbody.trans hsplit) ⟨back, rfl⟩

end ModalLexer.Pattern
