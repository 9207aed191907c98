import ModalLexer.Proofs.Pattern.Certainty
import ModalLexer.Rule.Action

/-! # Emissions of consecutive parts

If a match consists of parts that follow each other without gaps, an emission turns every part that
is not empty into a token, under the type of its group.
-/

namespace ModalLexer

variable {ε : Type} {s : State ε} {t u rest : Text} {kind : TokenType} {kinds : List TokenType}
  {parts : List Text}

theorem State.emit_byteSize (h : s.text = u ++ rest) :
    s.emit kind (Text.byteSize u) = .ok ({ s with text := rest }.push ⟨some kind, u⟩) := by
  simp only [emit, consume, h, Text.splitBytes?_byteSize]
  rfl

/-- The number of bytes of each part, under its type. -/
def partSizes (parts : List (TokenType × Text)) : List (TokenType × Nat) :=
  parts.map fun (kind, part) => (kind, part.byteSize)

@[simp] theorem partSizes_nil : partSizes [] = [] := rfl

@[simp] theorem partSizes_cons (part : TokenType × Text) (parts : List (TokenType × Text)) :
    partSizes (part :: parts) = (part.1, part.2.byteSize) :: partSizes parts := rfl

/-- The text that the parts make up. -/
def partsText (parts : List (TokenType × Text)) : Text := (parts.map Prod.snd).flatten

@[simp] theorem partsText_nil : partsText [] = [] := rfl

@[simp] theorem partsText_cons (part : TokenType × Text) (parts : List (TokenType × Text)) :
    partsText (part :: parts) = part.2 ++ partsText parts := rfl

/-- The tokens that parts of a text become. -/
def partTokens (parts : List (TokenType × Text)) : List Token :=
  parts.map fun (kind, part) => ⟨some kind, part⟩

/-- Queues parts of the text as tokens. Nothing else changes. -/
theorem State.emitAll_parts {parts : List (TokenType × Text)}
    (h : s.text = partsText parts ++ rest) :
    ∃ queue, s.emitAll (partSizes parts) = (.ok true, { s with text := rest, queue }) ∧
      queue.toList = s.queue.toList ++ partTokens parts := by
  induction parts generalizing s with
  | nil =>
    obtain rfl : s.text = rest := h
    exact ⟨s.queue, rfl, by simp [partTokens]⟩
  | cons part parts ih =>
    obtain ⟨kind, w⟩ := part
    have htext : s.text = w ++ (partsText parts ++ rest) := by simpa using h
    have hnext : ({ s with text := partsText parts ++ rest }.push ⟨some kind, w⟩).text
        = partsText parts ++ rest := rfl
    obtain ⟨queue, hqueue, hlist⟩ := ih hnext
    refine ⟨queue, ?_, ?_⟩
    · rw [partSizes, List.map_cons, State.emitAll, State.emit_byteSize htext]
      exact hqueue
    · rw [hlist]
      simp [State.push, partTokens]

/-- The parts that are not empty, with their types. -/
def typed (kinds : List TokenType) (parts : List Text) : List (TokenType × Text) :=
  (kinds.zip parts).filter (!·.2.isEmpty)

/-- The tokens that an emission cuts out of the parts. -/
def tokensOf (kinds : List TokenType) (parts : List Text) : List Token :=
  (typed kinds parts).map fun (kind, part) => ⟨some kind, part⟩

theorem typed_cons (part : Text) :
    typed (kind :: kinds) (part :: parts)
      = (if part = [] then [] else [(kind, part)]) ++ typed kinds parts := by
  by_cases h : part = [] <;> simp [typed, h]

theorem flatten_typed (hlen : kinds.length = parts.length) :
    ((typed kinds parts).map Prod.snd).flatten = parts.flatten := by
  induction parts generalizing kinds with
  | nil => simp [typed]
  | cons part parts ih =>
    cases kinds with
    | nil => cases hlen
    | cons kind kinds =>
      have hmore := ih (Nat.succ.inj hlen)
      rw [typed_cons]
      by_cases h : part = [] <;> simp [h, hmore]

/-- The groups of consecutive parts do not overlap and leave no gaps. -/
theorem pieces_spansFrom (start : Nat) (hlen : kinds.length = parts.length) :
    ∃ spans, groupSpans start (kinds.zip ((Pattern.spansFrom start parts).map some)) = .ok spans ∧
      pieces start (start + Text.byteSize parts.flatten) spans
        = partSizes (typed kinds parts) := by
  induction parts generalizing kinds start with
  | nil =>
    cases kinds with
    | nil => exact ⟨[], rfl, by simp [pieces, typed]⟩
    | cons => cases hlen
  | cons part parts ih =>
    cases kinds with
    | nil => cases hlen
    | cons kind kinds =>
      obtain ⟨spans, hspans, hpieces⟩ := ih (start + part.byteSize) (Nat.succ.inj hlen)
      rw [typed_cons]
      by_cases h : part = []
      · subst h
        exact ⟨spans, by simpa [Pattern.spansFrom, groupSpans] using hspans, by simpa using hpieces⟩
      · have hsize : start ≠ start + part.byteSize := by
          have := mt Text.byteSize_eq_zero.1 h
          omega
        refine ⟨(kind, ⟨start, start + part.byteSize⟩) :: spans, ?_, ?_⟩
        · simp only [Pattern.spansFrom, List.map_cons, List.zip_cons_cons, groupSpans,
            if_neg hsize, Nat.lt_irrefl, if_false, hspans]
          rfl
        · simp only [pieces, Nat.lt_irrefl, if_false, List.flatten_cons, Text.byteSize_append,
            ← Nat.add_assoc, hpieces, if_neg h]
          simp

theorem emission_ofParts {groups : Nat} (hlen : kinds.length = parts.length)
    (hgroups : parts.length = max 1 groups) (hne : parts.flatten ≠ []) :
    emission kinds (.ofParts groups parts)
      = .ok (partSizes (typed kinds parts)) := by
  have hcount : (Pattern.Captures.ofParts groups parts).groups.length = groups := by
    simp only [Pattern.Captures.ofParts]
    split
    · next h => simp [h]
    · next h => simp [hgroups]; omega
  have hstop : Text.byteSize parts.flatten ≠ 0 := mt Text.byteSize_eq_zero.1 hne
  simp only [emission, hcount, ← hgroups, hlen, ne_eq, not_true_eq_false, if_false]
  cases groups with
  | zero =>
    obtain ⟨part, rfl⟩ := List.length_eq_one_iff.1 (show parts.length = 1 from hgroups)
    obtain ⟨kind, rfl⟩ := List.length_eq_one_iff.1 (show kinds.length = 1 from hlen)
    have hpart : part ≠ [] := by simpa using hne
    simp only [Pattern.Captures.ofParts, if_true, if_neg hstop, typed_cons, if_neg hpart]
    simp [typed]
  | succ n =>
    obtain ⟨spans, hspans, hpieces⟩ := pieces_spansFrom 0 hlen
    rw [Nat.zero_add] at hpieces
    simp only [Pattern.Captures.ofParts, Nat.succ_ne_zero, if_false, hspans, if_neg hstop]
    exact congrArg Except.ok hpieces

end ModalLexer
