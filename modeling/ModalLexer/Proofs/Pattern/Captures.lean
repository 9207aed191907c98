import ModalLexer.Proofs.Pattern.Reading

/-! # Where captures lie

A match and the stretches of its groups begin and end between two characters of the text, and the
groups lie within the match. So a text can be cut wherever one of them begins or ends.
-/

namespace ModalLexer

/-- The text can be cut after `n` bytes. -/
def Text.Boundary (t : Text) (n : Nat) : Prop := ∃ u rest, t = u ++ rest ∧ n = u.byteSize

/-- Of two boundaries the later one lies behind the text in front of the earlier one. -/
theorem Text.Boundary.split {t u rest : Text} {n : Nat} (h : t.Boundary n) (ht : t = u ++ rest)
    (hle : u.byteSize ≤ n) :
    ∃ w rest', rest = w ++ rest' ∧ n = u.byteSize + w.byteSize := by
  obtain ⟨u', rest', ht', rfl⟩ := h
  rcases List.append_eq_append_iff.1 (ht.symm.trans ht') with ⟨w, rfl, hrest⟩ | ⟨w, rfl, hrest⟩
  · exact ⟨w, rest', hrest, Text.byteSize_append⟩
  · -- The cut comes no later than `u`, so nothing lies between the two.
    have hw : Text.byteSize w = 0 := by
      rw [Text.byteSize_append] at hle
      omega
    exact ⟨[], rest, rfl, by simp [Text.byteSize_append, hw]⟩

namespace Pattern

/-- The stretch begins and ends at boundaries of the text, between two offsets. -/
structure Span.LiesIn (span : Span) (t : Text) (start stop : Nat) : Prop where
  start_boundary : t.Boundary span.start
  stop_boundary : t.Boundary span.stop
  start_le : start ≤ span.start
  le : span.start ≤ span.stop
  le_stop : span.stop ≤ stop

theorem Span.LiesIn.mono {span : Span} {t : Text} {start stop stop' : Nat}
    (h : span.LiesIn t start stop) (hle : stop ≤ stop') : span.LiesIn t start stop' :=
  { h with le_stop := Nat.le_trans h.le_stop hle }

/-- The match lies in the text, and the stretches of its groups lie in the match. -/
structure Captures.LieIn (captures : Captures) (t : Text) : Prop where
  span : captures.span.LiesIn t 0 captures.span.stop
  groups : ∀ span, some span ∈ captures.groups →
    span.LiesIn t captures.span.start captures.span.stop

/-- A match that ends at the start of the text is empty. -/
theorem Captures.LieIn.span_eq_zero {captures : Captures} {t : Text} (h : captures.LieIn t)
    (hstop : captures.span.stop = 0) : captures.span = ⟨0, 0⟩ := by
  have hstart : captures.span.start = 0 := Nat.le_zero.1 (hstop ▸ h.span.le)
  calc captures.span = ⟨captures.span.start, captures.span.stop⟩ := rfl
    _ = ⟨0, 0⟩ := by rw [hstart, hstop]

/-- A place in the text, not before `start`, with groups that lie between the two. -/
structure Progress.At (p : Progress) (t : Text) (start : Nat) : Prop where
  rest : ∃ u, t = u ++ p.rest ∧ p.offset = u.byteSize
  le : start ≤ p.offset
  groups : ∀ span, some span ∈ p.groups → span.LiesIn t start p.offset

variable {m : Matcher} {p q : Progress} {t u : Text} {start : Nat}

theorem Progress.At.boundary (h : p.At t start) : t.Boundary p.offset := by
  obtain ⟨u, ht, hoffset⟩ := h.rest
  exact ⟨u, p.rest, ht, hoffset⟩

/-- A way through a matcher leads from a place in the text to another one. -/
theorem Matcher.Reads.at (h : m.Reads p u q) (hp : p.At t start) : q.At t start := by
  induction h with
  | empty | anchor | once => exact hp
  | @set s p c rest hrest _ =>
    obtain ⟨u, ht, hoffset⟩ := hp.rest
    refine ⟨⟨u ++ [c], ?_, ?_⟩, ?_, ?_⟩
    · rw [ht, hrest, List.append_assoc, List.singleton_append]
    · simp [hoffset]
    · have := hp.le
      simp only
      omega
    · intro span hspan
      exact (hp.groups span hspan).mono (Nat.le_add_right _ _)
  | @group index body p q u hread ih =>
    have hq := ih hp
    refine ⟨hq.rest, hq.le, ?_⟩
    intro span hspan
    rcases List.mem_or_eq_of_mem_set hspan with hmem | heq
    · exact hq.groups span hmem
    · cases heq
      have hoffset : q.offset = p.offset + u.byteSize := hread.advances.2
      exact ⟨hp.boundary, hq.boundary, hp.le, by simp only; omega, Nat.le_refl _⟩
  | cat _ _ ih ih' | plusMore _ _ ih ih' => exact ih' (ih hp)
  | altFirst _ ih | altSecond _ ih | plusLast _ ih => exact ih hp

variable {p : Pattern} {captures : Captures} {before : Option Char} {rest : Text}

theorem matchFrom_lieIn {v : Visited} (ht : t = u ++ rest)
    (h : p.matchFrom before u.byteSize rest v = .ok captures) :
    captures.LieIn t ∧ captures.span.start = u.byteSize := by
  simp only [matchFrom] at h
  cases hrun : p.matcher.start ⟨before, rest, u.byteSize, List.replicate (p.groups + 1) none⟩ v with
  | error v => rw [hrun] at h; cases h
  | ok last =>
    rw [hrun] at h
    cases h
    obtain ⟨w, q, v', hread, hq⟩ := Matcher.reads_of_run hrun
    cases hq
    have hfirst : Progress.At ⟨before, rest, u.byteSize, List.replicate (p.groups + 1) none⟩ t
        u.byteSize :=
      ⟨⟨u, ht, rfl⟩, Nat.le_refl _, fun span hspan => by cases List.eq_of_mem_replicate hspan⟩
    have hlast := hread.at hfirst
    refine ⟨⟨⟨⟨u, rest, ht, rfl⟩, hlast.boundary, Nat.zero_le _, hlast.le, Nat.le_refl _⟩, ?_⟩, rfl⟩
    intro span hspan
    exact hlast.groups span (List.mem_of_mem_tail hspan)

theorem searchFrom_lieIn {v : Visited} (ht : t = u ++ rest)
    (h : p.searchFrom before u.byteSize rest v = some captures) : captures.LieIn t := by
  induction rest generalizing before u v with
  | nil =>
    rw [searchFrom] at h
    cases hmatch : p.matchFrom before u.byteSize [] v with
    | error v => rw [hmatch] at h; cases h
    | ok found =>
      rw [hmatch] at h
      cases h
      exact (matchFrom_lieIn ht hmatch).1
  | cons c rest ih =>
    rw [searchFrom] at h
    split at h
    · next found hmatch =>
      cases h
      exact (matchFrom_lieIn ht hmatch).1
    · next v' _ =>
      have hsize : u.byteSize + c.utf8Size = Text.byteSize (u ++ [c]) := by simp
      rw [hsize] at h
      exact ih (by rw [ht, List.append_assoc, List.singleton_append]) h

/-- Captures lie in the text that was searched. -/
theorem search_lieIn (h : p.search t = some captures) : captures.LieIn t := by
  unfold search at h
  split at h
  · cases hmatch : p.matchFrom none 0 t {} with
    | error v => rw [hmatch] at h; cases h
    | ok found =>
      rw [hmatch] at h
      cases h
      exact (matchFrom_lieIn (u := []) rfl hmatch).1
  · exact searchFrom_lieIn (u := []) rfl h

end Pattern

end ModalLexer
