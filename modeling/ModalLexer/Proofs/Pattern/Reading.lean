import ModalLexer.Pattern.Basic

/-! # What a match reads

A way through a matcher reads characters off the front of the text. `Reads` describes these ways
without the order in which they are tried, and every match is one of them. What they have in common
can be seen from the matcher: the sets that the characters are from, whether there are any
characters at all, and which one comes first.
-/

namespace ModalLexer.Pattern

namespace Matcher

/-- A way through the matcher on which the characters of a text are read, from one place to
another. -/
inductive Reads : Matcher → Progress → Text → Progress → Prop
  | empty {p : Progress} : Reads empty p [] p
  | set {s : CharSet} {p : Progress} {c : Char} {rest : Text} (hrest : p.rest = c :: rest)
    (hc : s.contains c = true) :
    Reads (set s) p [c] { p with before := some c, rest, offset := p.offset + c.utf8Size }
  | anchor {a : Anchor} {p : Progress} (h : a.holds p.before p.rest = true) :
    Reads (anchor a) p [] p
  | group {index : Nat} {body : Matcher} {p q : Progress} {u : Text} (h : Reads body p u q) :
    Reads (group index body) p u
      { q with groups := q.groups.set index (some ⟨p.offset, q.offset⟩) }
  | cat {a b : Matcher} {p q r : Progress} {u w : Text} (h : Reads a p u q)
    (h' : Reads b q w r) : Reads (cat a b) p (u ++ w) r
  | altFirst {a b : Matcher} {p q : Progress} {u : Text} (h : Reads a p u q) :
    Reads (alt a b) p u q
  | altSecond {a b : Matcher} {p q : Progress} {u : Text} (h : Reads b p u q) :
    Reads (alt a b) p u q
  | plusLast {body : Matcher} {lazy : Bool} {p q : Progress} {u : Text} (h : Reads body p u q) :
    Reads (plus body lazy) p u q
  | plusMore {body : Matcher} {lazy : Bool} {p q r : Progress} {u w : Text}
    (h : Reads body p u q) (h' : Reads (plus body lazy) q w r) : Reads (plus body lazy) p (u ++ w) r
  | once {point : Nat} {p : Progress} : Reads (once point) p [] p

end Matcher

open Matcher

variable {m body : Matcher} {p q r : Progress} {u t : Text} {v : Visited}
  {next : Progress → Visited → Way}

theorem Way.orElse_ok {first : Way} {second : Visited → Way} (h : first.orElse second = .ok r) :
    first = .ok r ∨ ∃ v, second v = .ok r := by
  cases first with
  | ok q => exact .inl h
  | error v => exact .inr ⟨v, h⟩

theorem iterate_reads {lazy : Bool} {left : Text}
    (hbody : ∀ (next : Progress → Visited → Way) p v r, body.run next p v = .ok r →
      ∃ u q v', body.Reads p u q ∧ next q v' = .ok r)
    (h : iterate body.run lazy next left p v = .ok r) :
    ∃ u q v', (plus body lazy).Reads p u q ∧ next q v' = .ok r := by
  induction left generalizing p v with
  | nil =>
    obtain ⟨u, q, v', hread, hq⟩ := hbody _ _ _ _ h
    exact ⟨u, q, v', .plusLast hread, hq⟩
  | cons c left ih =>
    obtain ⟨u, q, v', hread, hq⟩ := hbody _ _ _ _ h
    have hagain : ∀ v, iterate body.run lazy next left q v = .ok r →
        ∃ u q v', (plus body lazy).Reads p u q ∧ next q v' = .ok r := by
      intro v hv
      obtain ⟨w, q', v', hmore, hq'⟩ := ih hv
      exact ⟨u ++ w, q', v', .plusMore hread hmore, hq'⟩
    have hleave : ∀ v, next q v = .ok r →
        ∃ u q v', (plus body lazy).Reads p u q ∧ next q v' = .ok r :=
      fun v hv => ⟨u, q, v, .plusLast hread, hv⟩
    split at hq
    · exact hleave _ hq
    · split at hq
      · rcases Way.orElse_ok hq with hv | ⟨v, hv⟩
        · exact hleave _ hv
        · exact hagain _ hv
      · rcases Way.orElse_ok hq with hv | ⟨v, hv⟩
        · exact hagain _ hv
        · exact hleave _ hv

/-- A run that succeeds takes a way through the matcher. -/
theorem Matcher.reads_of_run (h : m.run next p v = .ok r) :
    ∃ u q v', m.Reads p u q ∧ next q v' = .ok r := by
  induction m generalizing next p v r with
  | empty => exact ⟨[], p, v, .empty, h⟩
  | set s =>
    simp only [run] at h
    split at h
    · cases h
    · next c rest hrest =>
      split at h
      · next hc => exact ⟨[c], _, v, .set hrest hc, h⟩
      · cases h
  | anchor a =>
    simp only [run] at h
    split at h
    · next ha => exact ⟨[], p, v, .anchor ha, h⟩
    · cases h
  | group index body ih =>
    obtain ⟨u, q, v', hread, hq⟩ := ih h
    exact ⟨u, _, v', .group hread, hq⟩
  | cat a b iha ihb =>
    obtain ⟨u, q, v', hread, hq⟩ := iha h
    obtain ⟨w, q', v'', hread', hq'⟩ := ihb hq
    exact ⟨u ++ w, q', v'', .cat hread hread', hq'⟩
  | alt a b iha ihb =>
    rcases Way.orElse_ok h with ha | ⟨v', hb⟩
    · obtain ⟨u, q, v', hread, hq⟩ := iha ha
      exact ⟨u, q, v', .altFirst hread, hq⟩
    · obtain ⟨u, q, v', hread, hq⟩ := ihb hb
      exact ⟨u, q, v', .altSecond hread, hq⟩
  | plus body lazy ih => exact iterate_reads (fun _ _ _ _ hrun => ih hrun) h
  | once point =>
    simp only [run] at h
    split at h
    · cases h
    · exact ⟨[], p, _, .once, h⟩

/-- What is read comes off the front of the text and adds to the offset. -/
theorem Matcher.Reads.advances (h : m.Reads p u q) :
    p.rest = u ++ q.rest ∧ q.offset = p.offset + u.byteSize := by
  induction h with
  | empty | anchor | once => simp
  | set hrest => simp [hrest]
  | group _ ih | altFirst _ ih | altSecond _ ih | plusLast _ ih => exact ih
  | cat _ _ ih ih' | plusMore _ _ ih ih' =>
    refine ⟨by simp [ih.1, ih'.1], ?_⟩
    rw [ih'.2, ih.2, Text.byteSize_append, Nat.add_assoc]

/-- The text can be read somewhere. -/
def Matcher.Matches (m : Matcher) (u : Text) : Prop := ∃ p q, m.Reads p u q

/-- No character of the set comes next. -/
def Stops (s : CharSet) (t : Text) : Prop := ∀ c, t.head? = some c → s.contains c = false

theorem stops_or_exists (s : CharSet) (t : Text) :
    Stops s t ∨ ∃ c rest, t = c :: rest ∧ s.contains c = true := by
  cases t with
  | nil => exact .inl nofun
  | cons c rest =>
    cases hc : s.contains c with
    | true => exact .inr ⟨c, rest, rfl, hc⟩
    | false =>
      refine .inl ?_
      rintro d hd
      cases hd
      exact hc

/-- The progress behind one more character. -/
def Progress.read (p : Progress) (c : Char) (rest : Text) : Progress :=
  { p with before := some c, rest, offset := p.offset + c.utf8Size }

theorem run_set_of_stops {s : CharSet} (h : Stops s p.rest) :
    (Matcher.set s).run next p v = .error v := by
  simp only [Matcher.run]
  split
  · rfl
  · next c rest hrest => rw [if_neg (by simp [h c (by rw [hrest]; rfl)])]

theorem run_set_of_contains {s : CharSet} {c : Char} {rest : Text} (hp : p.rest = c :: rest)
    (hc : s.contains c = true) :
    (Matcher.set s).run next p v = next (p.read c rest) v := by
  simp only [Matcher.run, hp, if_pos hc, Progress.read]

namespace Matcher

def sets : Matcher → List CharSet
  | set s => [s]
  | group _ body | plus body _ => body.sets
  | cat a b | alt a b => a.sets ++ b.sets
  | empty | anchor _ | once _ => []

def nullable : Matcher → Bool
  | set _ => false
  | group _ body | plus body _ => body.nullable
  | cat a b => a.nullable && b.nullable
  | alt a b => a.nullable || b.nullable
  | empty | anchor _ | once _ => true

/-- The sets from which the first character read may be. -/
def firsts : Matcher → List CharSet
  | set s => [s]
  | group _ body | plus body _ => body.firsts
  | cat a b => if a.nullable then a.firsts ++ b.firsts else a.firsts
  | alt a b => a.firsts ++ b.firsts
  | empty | anchor _ | once _ => []

def groupless : Matcher → Bool
  | group _ _ => false
  | plus body _ => body.groupless
  | cat a b | alt a b => a.groupless && b.groupless
  | set _ | empty | anchor _ | once _ => true

theorem Matches.exists_set (h : m.Matches u) {c : Char} (hc : c ∈ u) :
    ∃ s ∈ m.sets, s.contains c = true := by
  obtain ⟨p, q, h⟩ := h
  induction h with
  | empty | anchor | once => cases hc
  | set _ hs => rw [List.mem_singleton.1 hc]; exact ⟨_, List.mem_singleton_self _, hs⟩
  | group _ ih | plusLast _ ih => exact ih hc
  | altFirst _ ih =>
    obtain ⟨s, hs, hcs⟩ := ih hc
    exact ⟨s, List.mem_append_left _ hs, hcs⟩
  | altSecond _ ih =>
    obtain ⟨s, hs, hcs⟩ := ih hc
    exact ⟨s, List.mem_append_right _ hs, hcs⟩
  | cat _ _ ih ih' =>
    rcases List.mem_append.1 hc with hc | hc
    · obtain ⟨s, hs, hcs⟩ := ih hc
      exact ⟨s, List.mem_append_left _ hs, hcs⟩
    · obtain ⟨s, hs, hcs⟩ := ih' hc
      exact ⟨s, List.mem_append_right _ hs, hcs⟩
  | plusMore _ _ ih ih' => exact (List.mem_append.1 hc).elim ih ih'

theorem Reads.nullable (h : m.Reads p [] q) : m.nullable = true := by
  generalize hu : ([] : Text) = u at h
  induction h with
  | empty | anchor | once => rfl
  | set => cases hu
  | group _ ih | plusLast _ ih => exact ih hu
  | altFirst _ ih => simp [Matcher.nullable, ih hu]
  | altSecond _ ih => simp [Matcher.nullable, ih hu]
  | cat _ _ ih ih' =>
    obtain ⟨hu, hw⟩ := List.append_eq_nil_iff.1 hu.symm
    simp [Matcher.nullable, ih hu.symm, ih' hw.symm]
  | plusMore _ _ ih _ => exact ih (List.append_eq_nil_iff.1 hu.symm).1.symm

theorem Matches.ne_nil (h : m.Matches u) (hm : m.nullable = false) : u ≠ [] := by
  rintro rfl
  obtain ⟨p, q, h⟩ := h
  rw [h.nullable] at hm
  cases hm

theorem Matches.exists_first {c : Char} (h : m.Matches (c :: u)) :
    ∃ s ∈ m.firsts, s.contains c = true := by
  obtain ⟨p, q, h⟩ := h
  generalize hcu : c :: u = w at h
  induction h generalizing u with
  | empty | anchor | once => cases hcu
  | set _ hs => cases hcu; exact ⟨_, List.mem_singleton_self _, hs⟩
  | group _ ih | plusLast _ ih => exact ih hcu
  | altFirst _ ih =>
    obtain ⟨s, hs, hcs⟩ := ih hcu
    exact ⟨s, List.mem_append_left _ hs, hcs⟩
  | altSecond _ ih =>
    obtain ⟨s, hs, hcs⟩ := ih hcu
    exact ⟨s, List.mem_append_right _ hs, hcs⟩
  | @cat a b _ _ _ first _ h _ ih ih' =>
    simp only [firsts]
    cases first with
    | nil =>
      obtain ⟨s, hs, hcs⟩ := ih' hcu
      rw [if_pos h.nullable]
      exact ⟨s, List.mem_append_right _ hs, hcs⟩
    | cons d first =>
      obtain ⟨rfl, -⟩ := List.cons.inj hcu
      obtain ⟨s, hs, hcs⟩ := ih rfl
      split
      · exact ⟨s, List.mem_append_left _ hs, hcs⟩
      · exact ⟨s, hs, hcs⟩
  | @plusMore _ _ _ _ _ first _ _ _ ih ih' =>
    cases first with
    | nil => exact ih' hcu
    | cons d first =>
      obtain ⟨rfl, -⟩ := List.cons.inj hcu
      exact ih rfl

theorem Reads.groups_eq (h : m.Reads p u q) (hm : m.groupless = true) : q.groups = p.groups := by
  induction h with
  | empty | set | anchor | once => rfl
  | group => cases hm
  | altFirst _ ih => exact ih (Bool.and_eq_true_iff.1 hm).1
  | altSecond _ ih => exact ih (Bool.and_eq_true_iff.1 hm).2
  | plusLast _ ih => exact ih hm
  | cat _ _ ih ih' =>
    exact (ih' (Bool.and_eq_true_iff.1 hm).2).trans (ih (Bool.and_eq_true_iff.1 hm).1)
  | plusMore _ _ ih ih' => exact (ih' hm).trans (ih hm)

end Matcher

end ModalLexer.Pattern
