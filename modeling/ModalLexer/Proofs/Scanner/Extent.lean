import ModalLexer.Scanner.Basic

/-! # How far a scanner goes

A run ends in front of the first character of another class. A quoted string ends behind the first
quote that does not follow a backslash, unless the line or the text ends before.
-/

namespace ModalLexer.Text

variable {p : Char → Bool} {quote before c : Char} {t u behind : Text}

/-- All characters are of the class, and the one behind them is not. -/
def IsRun (p : Char → Bool) (u behind : Text) : Prop :=
  (∀ c ∈ u, p c = true) ∧ ∀ c, behind.head? = some c → p c = false

theorem IsRun.cons (h : IsRun p u behind) (hc : p c = true) : IsRun p (c :: u) behind :=
  ⟨List.forall_mem_cons.2 ⟨hc, h.1⟩, h.2⟩

theorem isRun_splitWhile (p : Char → Bool) (t : Text) :
    IsRun p (splitWhile p t).1 (splitWhile p t).2 := by
  fun_induction splitWhile p t with
  | case1 => exact ⟨by simp, by simp⟩
  | case2 c t hc head tail heq ih =>
    rw [heq] at ih
    exact ih.cons hc
  | case3 c t hc =>
    refine ⟨by simp, ?_⟩
    rintro d hd
    cases hd
    exact Bool.eq_false_iff.2 hc

/-- Behind the first character no quote closes the string, and no line ends. -/
def Unclosed (quote : Char) (u : Text) : Prop :=
  '\n' ∉ u ∧ ∀ front c back, u = front ++ c :: quote :: back → c = '\\'

/-- The string is not closed before its end. There it is closed, or else the line or the text
ends. -/
def StringEnds (quote : Char) (u behind : Text) : Prop :=
  Unclosed quote u ∧ (behind = [] ∨ behind.head? = some '\n') ∨
    ∃ body c, u = body ++ [c, quote] ∧ c ≠ '\\' ∧ Unclosed quote (body ++ [c])

theorem unclosed_single (hc : c ≠ '\n') : Unclosed quote [c] := by
  refine ⟨by simpa using hc.symm, ?_⟩
  intro front d back h
  have hlen := congrArg List.length h
  simp only [List.length_cons, List.length_nil, List.length_append] at hlen
  omega

theorem Unclosed.cons (h : Unclosed quote (c :: u)) (hbefore : before ≠ '\n')
    (hc : c = quote → before = '\\') : Unclosed quote (before :: c :: u) := by
  refine ⟨?_, ?_⟩
  · rw [List.mem_cons, not_or]
    exact ⟨hbefore.symm, h.1⟩
  · intro front d back hsplit
    cases front with
    | nil =>
      obtain ⟨rfl, hbehind⟩ := List.cons.inj hsplit
      exact hc (List.cons.inj hbehind).1
    | cons e front => exact h.2 front d back (List.cons.inj hsplit).2

theorem StringEnds.cons (h : StringEnds quote (c :: u) behind) (hbefore : before ≠ '\n')
    (hc : c = quote → before = '\\') : StringEnds quote (before :: c :: u) behind := by
  rcases h with ⟨hopen, hend⟩ | ⟨body, d, hu, hd, hopen⟩
  · exact .inl ⟨hopen.cons hbefore hc, hend⟩
  · refine .inr ⟨before :: body, d, by rw [hu]; rfl, hd, ?_⟩
    cases body <;>
    · obtain ⟨rfl, -⟩ := List.cons.inj hu
      exact hopen.cons hbefore hc

theorem stringEnds_splitQuoted (hbefore : before ≠ '\n') (t : Text) :
    StringEnds quote (before :: (splitQuoted quote before t).1)
      (splitQuoted quote before t).2 := by
  fun_induction splitQuoted quote before t with
  | case1 before => exact .inl ⟨unclosed_single hbefore, .inl rfl⟩
  | case2 before c t hc =>
    obtain ⟨rfl, hescape⟩ := hc
    exact .inr ⟨[], before, rfl, hescape, unclosed_single hbefore⟩
  | case3 before t => exact .inl ⟨unclosed_single hbefore, .inr rfl⟩
  | case4 before c t hclose hline body rest heq ih =>
    have hmore := ih hline
    rw [heq] at hmore
    refine hmore.cons hbefore fun hc => ?_
    exact Decidable.byContradiction fun hescape => hclose ⟨hc, hescape⟩

end ModalLexer.Text
