import ModalLexer.Proofs.Engine.Stopping
import ModalLexer.Proofs.Engine.Thrift
import ModalLexer.Proofs.Language.C.Nesting
import ModalLexer.Proofs.Language.Ini.Lines

/-! # The scores of the languages

All rules of the languages are thrifty: what a keyword, a comment, a directive or a section adds to
the score it has in bytes, and so has an invalid character or a stray closer what it takes from it.
So the score of a scan is never larger than the text that has been taken.
-/

namespace ModalLexer.Language

variable {ε : Type}

namespace C

theorem thrifty_identifier : (.procedure identifier : Rule ε).Thrifty := by
  apply Rule.thrifty_procedure
  intro s
  simp only [identifier, Procedure.run, Procedure.trace]
  apply State.Affords.cons
  split
  · next hstart =>
    obtain ⟨word, rest, hword⟩ :
        ∃ word rest, Text.run Text.isIdentifierPart s.text = (word, rest) := ⟨_, _, rfl⟩
    have htext : s.text = word ++ rest := (append_of_word hword).symm
    simp only [hword]
    split
    · apply Procedure.affords_addScore htext
      have hne : word ≠ [] := by
        cases hchars : s.text with
        | nil => rw [hchars] at hstart; cases hstart
        | cons c t =>
          rw [hchars] at hword
          cases hword
          exact List.cons_ne_nil _ _
      exact Text.byteSize_pos hne
    · exact Procedure.affords_emit htext
  · exact Procedure.affords_done

theorem thrifty_number : (.procedure number : Rule ε).Thrifty := by
  apply Rule.thrifty_procedure
  intro s
  simp only [number, Procedure.run, Procedure.trace]
  apply State.Affords.cons
  split
  · cases hnumber : s.text.number? with
    | none => exact Procedure.affords_done
    | some literal => exact Procedure.affords_emit (append_of_number hnumber).symm
  · exact Procedure.affords_done

theorem thrifty_body (closer? : Option String) :
    ∀ r ∈ (body closer? : List (Rule ε)), r.Thrifty := by
  simp only [body, List.forall_mem_append, List.forall_mem_cons, List.not_mem_nil, false_implies,
    implies_true, and_true]
  refine ⟨⟨⟨fun r hr => ?_, ?_⟩, fun r hr => ?_⟩, ?_⟩
  · obtain ⟨closer, -, rfl⟩ := List.mem_map.1 hr
    exact Rule.thrifty_mode (by simp) rfl
  · refine ⟨?_, ?_, ?_, ?_, ?_, ?_, ?_, ?_, thrifty_identifier, thrifty_number⟩
    · exact Rule.thrifty_scanIf
    · exact Rule.thrifty_emit
    · exact Rule.thrifty_score (by decide +kernel)
    · exact Rule.thrifty_score (by decide +kernel)
    · exact Rule.thrifty_score (by decide +kernel)
    · exact Rule.thrifty_score (by decide +kernel)
    · exact Rule.thrifty_scanIf
    · exact Rule.thrifty_scanIf
  · obtain ⟨nesting, -, rfl⟩ := List.mem_map.1 hr
    exact Rule.thrifty_mode (by simp) rfl
  · refine ⟨?_, Rule.thrifty_emit, Rule.thrifty_emit, ?_⟩
    · exact Rule.thrifty_score (by decide +kernel)
    · exact Rule.thrifty_score (by decide +kernel)

theorem thrifty_grammar : (grammar : Grammar ε).Thrifty := by
  rintro modes ⟨rfl⟩ mode hmode
  rcases List.mem_cons.1 hmode with rfl | hnested
  · exact thrifty_body none
  · obtain ⟨nesting, -, rfl⟩ := List.mem_map.1 hnested
    exact thrifty_body (some nesting.closer)

end C

namespace Ini

theorem thrifty_root : ∀ r ∈ (root : List (Rule ε)), r.Thrifty := by
  simp only [root, List.forall_mem_cons, List.not_mem_nil, false_implies, implies_true, and_true]
  refine ⟨?_, ?_, ?_, ?_, ?_, ?_⟩
  · exact Rule.thrifty_scanIf
  · exact Rule.thrifty_emit
  · exact Rule.thrifty_score (by decide +kernel)
  · exact Rule.thrifty_score (by decide +kernel)
  · exact Rule.thrifty_sequence 1 (by decide +kernel) (by simp)
      (by simp [Action.movements, Action.movement])
  · exact Rule.thrifty_score (by decide +kernel)

theorem thrifty_value : ∀ r ∈ (value : List (Rule ε)), r.Thrifty := by
  simp only [value, List.forall_mem_cons, List.not_mem_nil, false_implies, implies_true, and_true]
  refine ⟨Rule.thrifty_emit, ?_, Rule.thrifty_emit, ?_, Rule.thrifty_emit, Rule.thrifty_emit,
    Rule.thrifty_emit, Rule.thrifty_emit⟩
  · exact Rule.thrifty_mode (by simp) rfl
  · exact Rule.thrifty_scanIf

theorem thrifty_grammar : (grammar : Grammar ε).Thrifty := by
  rintro modes ⟨rfl⟩
  simp only [List.forall_mem_cons, List.not_mem_nil, false_implies, implies_true, and_true]
  exact ⟨thrifty_root, thrifty_value⟩

end Ini

/-- Whatever the text and the markers are, the text that has been taken covers the score between any
two passes of a scan, and the whole text covers it at any time. So neither the scan nor detection
ever wraps the score around, as long as the size of the text is a machine word. -/
theorem texts_cover_scores (text : Text) :
    (C.grammar : Grammar ε).CoversScores text ∧ (Ini.grammar : Grammar ε).CoversScores text := by
  obtain ⟨c, hc⟩ := C.exists_compile (ε := ε)
  obtain ⟨ini, hini⟩ := Ini.exists_compile (ε := ε)
  refine ⟨?_, ?_⟩
  · exact C.thrifty_grammar.coversScores
      (C.keeps_nested.exists_scan C.plain_grammar hc (C.nested_nil text))
  · exact Ini.thrifty_grammar.coversScores
      (Ini.keeps_inMode.exists_scan Ini.plain_grammar hini (.inl ⟨rfl, rfl⟩))

end ModalLexer.Language
