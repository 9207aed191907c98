import ModalLexer.Proofs.Pattern.Captures
import ModalLexer.Proofs.Rule.Steps

/-! # Emissions of any match

The groups of a match need neither follow each other nor cover it. An emission still cuts the text
up to the end of the match into consecutive parts, none of which is empty, and every cut falls
between two characters.
-/

namespace ModalLexer

variable {ε : Type} {captures : Pattern.Captures} {kinds : List TokenType} {t u rest : Text}

/-- The parts reach from an offset in the text to another one, without gaps. -/
structure CutUpTo (stop : Nat) (u rest : Text) (parts : List (TokenType × Text)) : Prop where
  text : ∃ more, rest = partsText parts ++ more
  stop_eq : u.byteSize + (partsText parts).byteSize = stop
  not_empty : ∀ part ∈ parts, part.2 ≠ []

namespace CutUpTo

variable {stop : Nat} {parts : List (TokenType × Text)} {kind : TokenType} {part : Text}

theorem cons (h : CutUpTo stop (u ++ part) rest parts) (hpart : part ≠ []) :
    CutUpTo stop u (part ++ rest) ((kind, part) :: parts) := by
  obtain ⟨more, rfl⟩ := h.text
  refine ⟨⟨more, by simp⟩, ?_, ?_⟩
  · rw [← h.stop_eq]
    simp [Nat.add_assoc]
  · intro q hq
    rcases List.mem_cons.1 hq with rfl | hmem
    · exact hpart
    · exact h.not_empty q hmem

end CutUpTo

/-- Stretches that lie in the text, in order and within the match, divide what lies between an
offset and the end of the match into parts. -/
theorem pieces_cut {start stop : Nat} {groups : List (TokenType × Option Pattern.Span)}
    {spans : List (TokenType × Pattern.Span)} (h : groupSpans start groups = .ok spans)
    (hgroups : ∀ kind span, (kind, some span) ∈ groups → span.LiesIn t 0 stop)
    (hstop : t.Boundary stop) (ht : t = u ++ rest) (hstart : start = u.byteSize)
    (hle : start ≤ stop) :
    ∃ parts, pieces start stop spans = partSizes parts ∧ CutUpTo stop u rest parts := by
  fun_induction groupSpans start groups generalizing spans u rest with
  | case1 start =>
    cases h
    subst hstart
    obtain ⟨w, more, rfl, hsize⟩ := hstop.split ht hle
    by_cases hlt : u.byteSize < stop
    · have hw : w ≠ [] := by
        rintro rfl
        simp [hsize] at hlt
      refine ⟨[(.text, w)], ?_, ⟨more, by simp⟩, by simp [hsize], by simpa using hw⟩
      simp only [pieces, if_pos hlt, partSizes, List.map_cons, List.map_nil]
      rw [hsize, Nat.add_sub_cancel_left]
    · have heq : u.byteSize = stop := Nat.le_antisymm hle (Nat.le_of_not_lt hlt)
      exact ⟨[], by simp [pieces, hlt, partSizes], ⟨w ++ more, rfl⟩, by simp [heq], by simp⟩
  | case2 start kind groups ih =>
    exact ih h (fun k s hmem => hgroups k s (List.mem_cons_of_mem _ hmem)) ht hstart hle
  | case3 start kind span groups _ ih =>
    exact ih h (fun k s hmem => hgroups k s (List.mem_cons_of_mem _ hmem)) ht hstart hle
  | case4 => cases h
  | case5 start kind span groups hne hafter ih =>
    cases hmore : groupSpans span.stop groups with
    | error e => rw [hmore] at h; cases h
    | ok more =>
      rw [hmore] at h
      cases h
      subst hstart
      have hspan := hgroups kind span List.mem_cons_self
      -- The text splits into a gap in front of the stretch, the stretch and what is behind it.
      obtain ⟨gap, behind, rfl, hgap⟩ := hspan.start_boundary.split ht (Nat.le_of_not_lt hafter)
      have ht' : t = (u ++ gap) ++ behind := by rw [ht, List.append_assoc]
      have hgap' : span.start = Text.byteSize (u ++ gap) := by rw [Text.byteSize_append, hgap]
      obtain ⟨w, behind, rfl, hw⟩ := hspan.stop_boundary.split ht' (hgap' ▸ hspan.le)
      have ht'' : t = (u ++ gap ++ w) ++ behind := by rw [ht', List.append_assoc _ w]
      have hw' : span.stop = Text.byteSize (u ++ gap ++ w) := hw.trans Text.byteSize_append.symm
      obtain ⟨parts, hparts, hcut⟩ := ih hmore
        (fun k s hmem => hgroups k s (List.mem_cons_of_mem _ hmem)) ht'' hw' hspan.le_stop
      have hwne : w ≠ [] := by
        rintro rfl
        rw [hgap', hw'] at hne
        simp at hne
      have hsize : span.stop - span.start = w.byteSize := by rw [hw, hgap']; omega
      have hcut' : CutUpTo stop (u ++ gap) (w ++ behind) ((kind, w) :: parts) := hcut.cons hwne
      by_cases hlt : u.byteSize < span.start
      · have hgne : gap ≠ [] := by
          rintro rfl
          simp [hgap] at hlt
        refine ⟨(.text, gap) :: (kind, w) :: parts, ?_, hcut'.cons hgne⟩
        simp only [pieces, if_pos hlt, hparts, hsize, partSizes, List.map_cons]
        rw [hgap, Nat.add_sub_cancel_left]
      · have hgnil : gap = [] := Text.byteSize_eq_zero.1 (by omega)
        subst hgnil
        rw [List.append_nil] at hcut'
        refine ⟨(kind, w) :: parts, ?_, hcut'⟩
        simp only [pieces, if_neg hlt, hparts, hsize, partSizes, List.map_cons]

/-- An emission cuts the text in front of the end of the match into parts that are not empty. -/
theorem emission_cuts {all : List (TokenType × Nat)} (hc : captures.LieIn t)
    (h : emission kinds captures = .ok all) :
    ∃ parts, all = partSizes parts ∧ CutUpTo captures.span.stop [] t parts := by
  have hnone : captures.span.stop = 0 → CutUpTo captures.span.stop [] t [] :=
    fun hzero => ⟨⟨t, rfl⟩, by simp [hzero], by simp⟩
  simp only [emission] at h
  split at h
  · cases h
  · next hlen =>
    split at h
    · next hgroups =>
      cases h
      by_cases hzero : captures.span.stop = 0
      · exact ⟨[], by simp [hzero, partSizes], hnone hzero⟩
      · have hone : kinds.length = 1 := by simpa [hgroups] using hlen
        obtain ⟨kind, rfl⟩ := List.length_eq_one_iff.1 hone
        obtain ⟨w, rest, rfl, hsize⟩ := hc.span.stop_boundary
        have hw : w ≠ [] := by
          rintro rfl
          exact hzero hsize
        exact ⟨[(kind, w)], by simp [hsize, mt Text.byteSize_eq_zero.1 hw, partSizes],
          ⟨rest, by simp⟩, by simp [hsize], by simpa using hw⟩
    · cases hspans : groupSpans 0 (kinds.zip captures.groups) with
      | error e => rw [hspans] at h; cases h
      | ok spans =>
        rw [hspans] at h
        have hall : (if captures.span.stop = 0 then [] else pieces 0 captures.span.stop spans)
            = all := Except.ok.inj h
        subst hall
        by_cases hzero : captures.span.stop = 0
        · exact ⟨[], by simp [hzero, partSizes], hnone hzero⟩
        · rw [if_neg hzero]
          refine pieces_cut hspans ?_ hc.span.stop_boundary (u := []) rfl rfl (Nat.zero_le _)
          intro kind span hmem
          have hspan := hc.groups span (List.of_mem_zip hmem).2
          exact { hspan with start_le := Nat.zero_le _ }

/-- What an emission does to a state whose text was matched. -/
theorem State.emitAll_cuts {s : State ε} {parts : List (TokenType × Text)}
    (h : CutUpTo captures.span.stop [] s.text parts) :
    ∃ s', s.emitAll (partSizes parts) = (.ok true, s') ∧
      s'.situation = { s.situation with text := s'.text } ∧
      s.text = partsText parts ++ s'.text ∧
      s'.queue.toList = s.queue.toList ++ parts.map fun (kind, part) => ⟨some kind, part⟩ := by
  obtain ⟨more, hmore⟩ := h.text
  obtain ⟨queue, hqueue, hlist⟩ := State.emitAll_parts hmore
  exact ⟨_, hqueue, rfl, hmore, hlist⟩

end ModalLexer
