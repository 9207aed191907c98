import Mathlib.Data.List.Forall2
import ModalLexer.Proofs.Pattern.Reading

/-! # The parts of a match

The patterns here are tied to the start of the text, and behind the anchor they are either free of
groups or a sequence of numbered groups. A match of such a pattern consists of parts that follow
each other without gaps, one for each group or a single one.
-/

namespace ModalLexer.Pattern

variable {p q : Progress} {u t : Text} {v : Visited}

namespace Matcher

/-- The bodies of a sequence of groups that are numbered from `index`. -/
def sections? (index : Nat) : Matcher → Option (List Matcher)
  | group i body => if i = index ∧ body.groupless = true then some [body] else none
  | cat (group i body) rest =>
    if i = index ∧ body.groupless = true then (rest.sections? (index + 1)).map (body :: ·) else none
  | _ => none

end Matcher

/-- The stretches that parts take one after the other. -/
def spansFrom (start : Nat) : List Text → List Span
  | [] => []
  | part :: parts => ⟨start, start + part.byteSize⟩ :: spansFrom (start + part.byteSize) parts

@[simp] theorem length_spansFrom (start : Nat) (parts : List Text) :
    (spansFrom start parts).length = parts.length := by
  induction parts generalizing start with
  | nil => rfl
  | cons part parts ih => simp [spansFrom, ih]

/-- The captures of a match with the given parts, where only the match itself counts without
groups. -/
def Captures.ofParts (groups : Nat) (parts : List Text) : Captures :=
  { span := ⟨0, Text.byteSize parts.flatten⟩
    groups := if groups = 0 then [] else (spansFrom 0 parts).map some }

theorem Matcher.Reads.of_group {index : Nat} {body : Matcher}
    (h : (Matcher.group index body).Reads p u q)
    (hbody : body.groupless = true) :
    body.Matches u ∧ q.groups = p.groups.set index (some ⟨p.offset, p.offset + u.byteSize⟩) := by
  cases h with
  | group h =>
    refine ⟨⟨_, _, h⟩, ?_⟩
    simp only [h.groups_eq hbody, h.advances.2]

theorem Matcher.reads_sections {index : Nat} {m : Matcher} {bodies : List Matcher}
    (hm : m.sections? index = some bodies) (h : m.Reads p u q)
    (hlen : p.groups.length = index + bodies.length) :
    ∃ parts, parts.flatten = u ∧ List.Forall₂ Matches bodies parts ∧
      q.groups = p.groups.take index ++ (spansFrom p.offset parts).map some := by
  fun_induction sections? index m generalizing bodies p u with
  | case1 index i body hi =>
    obtain ⟨rfl, hbody⟩ := hi
    cases hm
    obtain ⟨hmatch, hgroups⟩ := h.of_group hbody
    refine ⟨[u], by simp, .cons hmatch .nil, ?_⟩
    rw [hgroups, List.set_eq_take_append_cons_drop, if_pos (by simp [hlen])]
    have hdrop : p.groups.drop (i + 1) = [] := List.drop_eq_nil_of_le (by simp [hlen])
    simp [hdrop, spansFrom]
  | case2 => cases hm
  | case3 index i body rest hi ih =>
    obtain ⟨rfl, hbody⟩ := hi
    obtain ⟨more, hmore, rfl⟩ := Option.map_eq_some_iff.1 hm
    cases h with
    | @cat _ _ _ mid _ first others hfirst hrest =>
      obtain ⟨hmatch, hgroups⟩ := hfirst.of_group hbody
      have hoffset : mid.offset = p.offset + first.byteSize := hfirst.advances.2
      have hi : i < p.groups.length := by simp [hlen]
      obtain ⟨parts, hparts, hall, hq⟩ := ih hmore hrest (by
        rw [hgroups, List.length_set, hlen, List.length_cons]; omega)
      refine ⟨first :: parts, by simp [hparts], .cons hmatch hall, ?_⟩
      have htake : (p.groups.take i).length = i := by simp [Nat.le_of_lt hi]
      rw [hq, hgroups, hoffset, List.take_set, List.take_add_one,
        List.getElem?_eq_getElem hi, List.set_append_right _ _ (Nat.le_of_eq htake), htake]
      simp [spansFrom]
  | case4 => cases hm
  | case5 => cases hm

section

variable {p : Pattern} {t : Text}

/-- What a pattern that is tied to the start matches behind the anchor. -/
def body? : Pattern → Option Matcher
  | ⟨.cat (.anchor .textStart) body, _, true⟩ => some body
  | _ => none

/-- The matchers of the parts of a match. -/
def parts? (p : Pattern) : Option (List Matcher) :=
  match p.body?, p.groups with
  | none, _ => none
  | some body, 0 => if body.groupless then some [body] else none
  | some body, n + 1 => (body.sections? 1).filter (·.length = n + 1)

theorem length_of_parts? {bodies : List Matcher} (h : p.parts? = some bodies) :
    bodies.length = max 1 p.groups := by
  unfold parts? at h
  split at h
  · cases h
  · next hgroups =>
    split at h
    · cases h; simp [hgroups]
    · cases h
  · next n _ hgroups =>
    have hlen : bodies.length = n + 1 := by simpa using (Option.filter_eq_some_iff.1 h).2
    rw [hlen, hgroups]
    simp

def start (p : Pattern) (t : Text) : Progress :=
  { before := none, rest := t, offset := 0, groups := List.replicate (p.groups + 1) none }

theorem search_eq {body : Matcher} (hbody : p.body? = some body) (t : Text) :
    p.search t = ((body.start (p.start t) {}).toOption).map fun last =>
      { span := ⟨0, last.offset⟩, groups := last.groups.tail } := by
  obtain ⟨m, groups, tied⟩ := p
  unfold body? at hbody
  split at hbody
  · next hp =>
    cases hp
    cases hbody
    simp only [search, matchFrom, Matcher.start, Matcher.run, Anchor.holds]
    cases hrun : Matcher.run body (fun q _ => .ok q) ⟨none, t, 0, _⟩ {} with
    | ok last => simp [start, hrun]; rfl
    | error v => simp [start, hrun]; rfl
  · cases hbody

theorem reads_of_search {body : Matcher} {captures : Captures} (hbody : p.body? = some body)
    (h : p.search t = some captures) :
    ∃ u last, body.Reads (p.start t) u last ∧
      captures = { span := ⟨0, last.offset⟩, groups := last.groups.tail } := by
  rw [search_eq hbody] at h
  obtain ⟨last, hlast, rfl⟩ := Option.map_eq_some_iff.1 h
  cases hrun : body.start (p.start t) {} with
  | error v => rw [hrun] at hlast; cases hlast
  | ok r =>
    rw [hrun] at hlast
    cases hlast
    obtain ⟨u, q, v', hread, hq⟩ := Matcher.reads_of_run hrun
    cases hq
    exact ⟨u, _, hread, rfl⟩

/-- A match takes parts off the front of the text, and the captures say where they are. -/
theorem parts_of_search {bodies : List Matcher} {captures : Captures} (hp : p.parts? = some bodies)
    (h : p.search t = some captures) :
    ∃ parts rest, t = parts.flatten ++ rest ∧ List.Forall₂ Matcher.Matches bodies parts ∧
      captures = .ofParts p.groups parts := by
  unfold parts? at hp
  split at hp
  · cases hp
  · next body hbody hgroups =>
    obtain ⟨u, last, hread, rfl⟩ := reads_of_search hbody h
    split at hp
    · next hless =>
      cases hp
      obtain ⟨hrest, hoffset⟩ := hread.advances
      refine ⟨[u], last.rest, by simpa [start] using hrest, .cons ⟨_, _, hread⟩ .nil, ?_⟩
      rw [hread.groups_eq hless, hoffset]
      simp [Captures.ofParts, hgroups, start]
    · cases hp
  · next body n hbody hgroups =>
    obtain ⟨u, last, hread, rfl⟩ := reads_of_search hbody h
    obtain ⟨hsections, hlen⟩ := Option.filter_eq_some_iff.1 hp
    have hlen : bodies.length = n + 1 := by simpa using hlen
    obtain ⟨hrest, hoffset⟩ := hread.advances
    obtain ⟨parts, rfl, hall, hlast⟩ := Matcher.reads_sections hsections hread
      (by simp [start, hgroups, hlen]; omega)
    refine ⟨parts, last.rest, by simpa [start] using hrest, hall, ?_⟩
    rw [hlast, hoffset]
    simp [Captures.ofParts, hgroups, start]

end

end ModalLexer.Pattern
