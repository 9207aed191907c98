import ModalLexer.Proofs.Pattern.Parts

/-! # Matches that are certain

Some patterns match as soon as the text begins with a character of a known set, because nothing is
asked of the text behind it.
-/

namespace ModalLexer.Pattern

variable {m a b : Matcher} {p : Progress} {v : Visited} {next : Progress → Visited → Way}

/-- Every way goes on to a match. -/
def Way.Certain (next : Progress → Visited → Way) : Prop := ∀ p v, ∃ r, next p v = .ok r

theorem Way.orElse_of_first {first : Way} {second : Visited → Way} (h : ∃ r, first = .ok r) :
    ∃ r, first.orElse second = .ok r := by
  obtain ⟨r, rfl⟩ := h
  exact ⟨r, rfl⟩

theorem Way.orElse_of_second {first : Way} {second : Visited → Way}
    (h : ∀ v, ∃ r, second v = .ok r) : ∃ r, first.orElse second = .ok r := by
  cases first with
  | ok r => exact ⟨r, rfl⟩
  | error v => exact h v

namespace Matcher

/-- Whether the matcher can be passed at every place. -/
def skips : Matcher → Bool
  | group _ body | plus body _ => body.skips
  | cat a b => a.skips && b.skips
  | alt a b => a.skips || b.skips
  | empty => true
  | set _ | anchor _ | once _ => false

/-- Sets of which a character is enough for a match, whatever follows it. -/
def leads : Matcher → List CharSet
  | set s => [s]
  | group _ body | plus body _ => body.leads
  | cat a b => if b.skips then a.leads else []
  | alt a b => a.leads ++ b.leads
  | empty | anchor _ | once _ => []

/-- A loop is certain to match where its body is. -/
theorem iterate_certain {lazy : Bool} {left : Text} (hnext : Way.Certain next)
    (hbody : ∀ next, Way.Certain next → ∃ r, m.run next p v = .ok r) :
    ∃ r, iterate m.run lazy next left p v = .ok r := by
  cases left with
  | nil => exact hbody next hnext
  | cons c left =>
    refine hbody _ fun q v => ?_
    split
    · exact hnext q v
    · split
      · exact Way.orElse_of_first (hnext q v)
      · exact Way.orElse_of_second (hnext q)

theorem run_of_skips (hm : m.skips = true) (hnext : Way.Certain next) (p : Progress)
    (v : Visited) : ∃ r, m.run next p v = .ok r := by
  induction m generalizing next p v with
  | empty => exact hnext p v
  | set | anchor | once => cases hm
  | group index body ih => exact ih hm (fun q v => hnext _ v) p v
  | cat a b iha ihb =>
    obtain ⟨ha, hb⟩ := Bool.and_eq_true_iff.1 hm
    exact iha ha (fun q v => ihb hb hnext q v) p v
  | alt a b iha ihb =>
    rcases Bool.or_eq_true_iff.1 hm with ha | hb
    · exact Way.orElse_of_first (iha ha hnext p v)
    · exact Way.orElse_of_second (ihb hb hnext p)
  | plus body lazy ih => exact iterate_certain hnext fun next hnext => ih hm hnext p v

theorem run_of_leads {s : CharSet} {c : Char} {rest : Text} (hs : s ∈ m.leads)
    (hc : s.contains c = true) (hp : p.rest = c :: rest) (hnext : Way.Certain next)
    (v : Visited) : ∃ r, m.run next p v = .ok r := by
  induction m generalizing next v with
  | empty | anchor | once => cases hs
  | set =>
    rw [List.mem_singleton.1 hs] at hc
    simp only [run, hp, if_pos hc]
    exact hnext _ v
  | group index body ih => exact ih hs (fun q v => hnext _ v) v
  | cat a b iha =>
    simp only [leads] at hs
    split at hs
    · next hb => exact iha hs (fun q v => run_of_skips hb hnext q v) v
    · cases hs
  | alt a b iha ihb =>
    rcases List.mem_append.1 hs with hs | hs
    · exact Way.orElse_of_first (iha hs hnext v)
    · exact Way.orElse_of_second (ihb hs hnext)
  | plus body lazy ih => exact iterate_certain hnext fun next hnext => ih hs hnext v

theorem Matches.of_set {s : CharSet} {u : Text} (h : (set s).Matches u) :
    ∃ c, u = [c] ∧ s.contains c = true := by
  obtain ⟨p, q, h⟩ := h
  cases h with
  | set _ hc => exact ⟨_, rfl, hc⟩

end Matcher

section

variable {p : Pattern} {s : CharSet} {c : Char}

/-- Sets of which a character at the start of the text is enough for a match. -/
def leads (p : Pattern) : List CharSet := p.body?.elim [] Matcher.leads

theorem search_of_leads (hs : s ∈ p.leads) (hc : s.contains c = true) (t : Text) :
    ∃ captures, p.search (c :: t) = some captures := by
  cases hbody : p.body? with
  | none => rw [leads, hbody] at hs; cases hs
  | some body =>
    rw [leads, hbody] at hs
    obtain ⟨r, hr⟩ := Matcher.run_of_leads (p := p.start (c :: t)) hs hc rfl
      (fun p v => ⟨p, rfl⟩) {}
    rw [search_eq hbody, Matcher.start, hr]
    exact ⟨_, rfl⟩

/-- A pattern for one character of a set matches that character, and nothing else. -/
theorem search_set (hp : p.parts? = some [.set s]) (hs : s ∈ p.leads) (t : Text) :
    p.search (c :: t)
      = if s.contains c = true then some (.ofParts p.groups [[c]]) else none := by
  have hmatch : ∀ captures, p.search (c :: t) = some captures →
      s.contains c = true ∧ captures = .ofParts p.groups [[c]] := by
    intro captures h
    obtain ⟨parts, rest, ht, hall, rfl⟩ := parts_of_search hp h
    obtain ⟨u, parts, hu, hnil, rfl⟩ := List.forall₂_cons_left_iff.1 hall
    cases hnil
    obtain ⟨d, rfl, hd⟩ := hu.of_set
    cases ht
    exact ⟨hd, rfl⟩
  split
  · next hc =>
    obtain ⟨captures, h⟩ := search_of_leads hs hc t
    rw [h, (hmatch captures h).2]
  · next hc =>
    cases h : p.search (c :: t) with
    | none => rfl
    | some captures => exact absurd (hmatch captures h).1 hc

end

end ModalLexer.Pattern
