import Mathlib.Data.List.Chain
import ModalLexer.Proofs.Pattern.Enclosing

/-! # Expressions behind an anchor

An expression that has been read is in its simple form already, so putting an anchor in front of it
does not change it.
-/

namespace ModalLexer.Pattern

namespace Expr

variable {e : Expr} {es : List Expr}

theorem factors_of_mem_factors {f : Expr} (h : f ∈ e.factors) : f.factors = [f] := by
  fun_induction factors e with
  | case1 => cases h
  | case2 a b iha ihb => exact (List.mem_append.1 h).elim iha ihb
  | case3 e hempty hcat =>
    obtain rfl := List.mem_singleton.1 h
    exact factors.eq_3 _ hempty hcat

theorem factors_ofFactors (h : ∀ f ∈ es, f.factors = [f]) : (ofFactors es).factors = es := by
  fun_induction ofFactors es with
  | case1 => rfl
  | case2 e => exact h e (List.mem_singleton_self e)
  | case3 e es hne ih =>
    rw [factors, h e List.mem_cons_self, ih fun f hf => h f (List.mem_cons_of_mem _ hf)]
    rfl

/-- One of the expressions is no literal. -/
def Apart (a b : Expr) : Prop := a.literal? = none ∨ b.literal? = none

/-- A literal is joined to a literal behind it, and otherwise nothing changes. -/
theorem joinLiterals_cons_cases (e : Expr) (es : List Expr) :
    (∀ f ∈ (joinLiterals es).head?, e.Apart f) ∧ joinLiterals (e :: es) = e :: joinLiterals es ∨
      ∃ s t rest, e = literal s ∧ joinLiterals es = literal t :: rest ∧
        joinLiterals (e :: es) = literal (s ++ t) :: rest := by
  cases e with
  | literal s =>
    cases hjoin : joinLiterals es with
    | nil => exact .inl ⟨fun f hf => (by cases hf), by rw [joinLiterals, hjoin]⟩
    | cons f rest =>
      cases f with
      | literal t => exact .inr ⟨s, t, rest, rfl, rfl, by rw [joinLiterals, hjoin]⟩
      | _ =>
        refine .inl ⟨fun f hf => ?_, by rw [joinLiterals, hjoin]⟩
        cases hf
        exact .inr rfl
  | _ => exact .inl ⟨fun f _ => .inl rfl, rfl⟩

theorem isChain_joinLiterals (es : List Expr) : (joinLiterals es).IsChain Apart := by
  induction es with
  | nil => exact .nil
  | cons e es ih =>
    rcases joinLiterals_cons_cases e es with ⟨happart, heq⟩ | ⟨s, t, rest, rfl, hjoin, heq⟩
    · rw [heq]
      exact List.isChain_cons.2 ⟨happart, ih⟩
    · rw [hjoin, List.isChain_cons] at ih
      rw [heq, List.isChain_cons]
      exact ⟨fun f hf => .inr ((ih.1 f hf).resolve_left fun hnone => by cases hnone), ih.2⟩

theorem joinLiterals_of_isChain (h : es.IsChain Apart) : joinLiterals es = es := by
  induction es with
  | nil => rfl
  | cons e es ih =>
    obtain ⟨happart, htail⟩ := List.isChain_cons.1 h
    rcases joinLiterals_cons_cases e es with ⟨-, heq⟩ | ⟨s, t, rest, rfl, hjoin, -⟩
    · rw [heq, ih htail]
    · rw [ih htail] at hjoin
      subst hjoin
      rcases happart _ rfl with hnone | hnone <;> cases hnone

theorem mem_joinLiterals {f : Expr} (h : f ∈ joinLiterals es) : f ∈ es ∨ ∃ t, f = literal t := by
  induction es with
  | nil => cases h
  | cons e es ih =>
    rcases joinLiterals_cons_cases e es with ⟨-, heq⟩ | ⟨s, t, rest, rfl, hjoin, heq⟩
    · rw [heq] at h
      rcases List.mem_cons.1 h with rfl | h
      · exact .inl List.mem_cons_self
      · exact (ih h).imp_left (List.mem_cons_of_mem _)
    · rw [heq] at h
      rcases List.mem_cons.1 h with rfl | h
      · exact .inr ⟨s ++ t, rfl⟩
      · have hmem : f ∈ joinLiterals es := hjoin ▸ List.mem_cons_of_mem _ h
        exact (ih hmem).imp_left (List.mem_cons_of_mem _)

theorem sequence_singleton : sequence [e] = ofFactors (joinLiterals e.factors) := by
  simp [sequence]

theorem sequence_sequence (es : List Expr) : sequence [sequence es] = sequence es := by
  have hfactors : ∀ f ∈ joinLiterals (es.flatMap factors), f.factors = [f] := by
    intro f hf
    rcases mem_joinLiterals hf with hf | ⟨t, rfl⟩
    · obtain ⟨e, -, hf⟩ := List.mem_flatMap.1 hf
      exact factors_of_mem_factors hf
    · rfl
  rw [sequence_singleton, sequence, factors_ofFactors hfactors,
    joinLiterals_of_isChain (isChain_joinLiterals _)]

theorem sequence_of_factors (h : e.factors = [e]) : sequence [e] = e := by
  rw [sequence_singleton, h, joinLiterals_of_isChain (.singleton e)]
  rfl

theorem alternatives_ne_nil (e : Expr) : e.alternatives ≠ [] := by
  fun_induction alternatives e with
  | case1 a b iha ihb => simp [iha]
  | case2 => simp

theorem length_le_length_flatMap_alternatives (es : List Expr) :
    es.length ≤ (es.flatMap alternatives).length := by
  induction es with
  | nil => exact Nat.le_refl _
  | cons e es ih =>
    have hpos := List.length_pos_of_ne_nil e.alternatives_ne_nil
    rw [List.length_cons, List.flatMap_cons, List.length_append]
    omega

theorem factors_ofSet (s : CharSet) : (ofSet s).factors = [ofSet s] := by
  unfold ofSet
  split <;> rfl

theorem factors_ofAlternatives (h : 2 ≤ es.length) :
    (ofAlternatives es).factors = [ofAlternatives es] := by
  cases es with
  | nil => exact absurd h (by simp)
  | cons e es =>
    cases es with
    | nil => exact absurd h (by simp)
    | cons f es => rfl

theorem le_foldl_size (es : List Expr) (n : Nat) : n ≤ es.foldl (fun n e => n + e.size) n := by
  induction es generalizing n with
  | nil => exact Nat.le_refl _
  | cons e es ih => exact Nat.le_trans (Nat.le_add_right _ _) (ih (n + e.size))

/-- The choice of several expressions is in its simple form as a part of a sequence. -/
theorem sequence_choice (h : 2 ≤ es.length) : sequence [choice es] = choice es := by
  obtain ⟨depth, hdepth⟩ := Nat.exists_eq_add_one_of_ne_zero
    (Nat.ne_of_gt (le_foldl_size es 1))
  have hlen : 2 ≤ (es.flatMap alternatives).length :=
    Nat.le_trans h (length_le_length_flatMap_alternatives es)
  rw [choice, hdepth, choiceUpTo]
  dsimp only
  rw [if_neg (Nat.not_lt.2 hlen)]
  split
  · exact sequence_of_factors (factors_ofSet _)
  · exact sequence_of_factors (factors_ofSet _)
  · split
    · exact sequence_sequence _
    · exact sequence_of_factors (factors_ofAlternatives hlen)

end Expr

theorem two_le_length {α : Type} {l : List α} (hnil : l ≠ []) (hone : ∀ a, l ≠ [a]) :
    2 ≤ l.length := by
  cases l with
  | nil => exact absurd rfl hnil
  | cons a l =>
    cases l with
    | nil => exact absurd rfl (hone a)
    | cons b l => exact Nat.le_add_left 2 _

/-- What is read up to the end of a group is in its simple form. -/
theorem OpenGroup.sequence_body (g : OpenGroup) : Expr.sequence [g.body.1] = g.body.1 := by
  unfold body
  split
  · rfl
  · next b hb =>
    have hone : g.branch = b ∧ g.branches = [] := by simpa using congrArg List.reverse hb
    rw [← hone.1]
    exact Expr.sequence_sequence _
  · next hnil hone =>
    refine Expr.sequence_choice ?_
    rw [List.length_map]
    exact two_le_length hnil hone

namespace Expr

variable {e : Expr} {d : Nat} {source : Text}

theorem sequence_of_parseUnbounded (h : parseUnbounded source = .ok (e, d)) : sequence [e] = e := by
  obtain ⟨r, -, hr⟩ := exists_of_bind_ok h
  unfold Reading.result at hr
  split at hr
  · have hbody : r.group.body.1 = e := congrArg Prod.fst (Except.ok.inj hr)
    rw [← hbody]
    exact r.group.sequence_body
  · cases hr

/-- The anchor is put in front of the expression as it is. -/
theorem tied_cases (h : sequence [e] = e) :
    e = empty ∧ e.tied = anchor .textStart ∨ e.tied = cat (anchor .textStart) e := by
  have hjoin : e.tied = ofFactors (anchor .textStart :: joinLiterals e.factors) := by
    simp [tied, sequence, factors, joinLiterals]
  rw [sequence_singleton] at h
  cases hfactors : joinLiterals e.factors with
  | nil =>
    rw [hfactors] at h hjoin
    exact .inl ⟨h.symm, hjoin⟩
  | cons f fs =>
    rw [hfactors] at h hjoin
    refine .inr ?_
    rw [hjoin, ofFactors, h]
    simp

end Expr

end ModalLexer.Pattern
