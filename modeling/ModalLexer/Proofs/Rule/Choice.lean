import ModalLexer.Proofs.Engine.Requests
import ModalLexer.Proofs.Rule.Steps

/-! # The choice of a rule

Rules are tried in order, and the first one that does not decline takes its step. What each rule of
a list does when it is tried says what the list does.
-/

namespace ModalLexer

variable {ε : Type}

/-- The step cuts the text into tokens that are neither empty nor stops. -/
structure Step.Sound (st : Step) (t : Text) : Prop where
  some_token : st.tokens ≠ []
  text : Token.join st.tokens ++ st.rest = t
  not_empty : ∀ token ∈ st.tokens, token.text ≠ []
  not_stop : ∀ token ∈ st.tokens, token.isStop = false

/-- The step on a text that goes on with `b`. -/
def Step.extend (st : Step) (b : Text) : Step := { st with rest := st.rest ++ b }

theorem Token.isStop_eq_false {kind : TokenType} (h : ¬ kind.IsA .stop) (text : Text) :
    (⟨some kind, text⟩ : Token).isStop = false := by
  simpa [isStop, isA] using h

theorem Step.sound_one {kind : TokenType} {u rest : Text} {score : Int64} {move : Move}
    (hkind : ¬ kind.IsA .stop) (hne : u ≠ []) :
    Step.Sound { tokens := [⟨some kind, u⟩], rest, score, move } (u ++ rest) :=
  ⟨by simp, by simp, by simpa using hne, by simpa using Token.isStop_eq_false hkind u⟩

theorem exists_of_mem_tokensOf {kinds : List TokenType} {parts : List Text} {token : Token}
    (h : token ∈ tokensOf kinds parts) :
    ∃ kind ∈ kinds, ∃ part, part ≠ [] ∧ token = ⟨some kind, part⟩ := by
  obtain ⟨⟨kind, part⟩, hp, rfl⟩ := List.mem_map.1 h
  obtain ⟨hzip, hpart⟩ := List.mem_filter.1 hp
  exact ⟨kind, (List.of_mem_zip hzip).1, part, by simpa using hpart, rfl⟩

theorem join_tokensOf {kinds : List TokenType} {parts : List Text}
    (hlen : kinds.length = parts.length) : Token.join (tokensOf kinds parts) = parts.flatten := by
  rw [← flatten_typed hlen, tokensOf, Token.join, List.flatMap_map]
  rfl

theorem Step.sound_tokensOf {kinds : List TokenType} {parts : List Text} {rest : Text}
    {score : Int64} {move : Move} (hkinds : ∀ kind ∈ kinds, ¬ kind.IsA .stop)
    (hlen : kinds.length = parts.length) (hne : parts.flatten ≠ []) :
    Step.Sound { tokens := tokensOf kinds parts, rest, score, move } (parts.flatten ++ rest) := by
  refine ⟨?_, by rw [join_tokensOf hlen], ?_, ?_⟩
  · intro hnil
    have hjoin := join_tokensOf hlen
    rw [show tokensOf kinds parts = [] from hnil] at hjoin
    exact hne hjoin.symm
  · intro token htoken
    obtain ⟨_, _, part, hpart, rfl⟩ := exists_of_mem_tokensOf htoken
    exact hpart
  · intro token htoken
    obtain ⟨kind, hkind, part, _, rfl⟩ := exists_of_mem_tokensOf htoken
    exact Token.isStop_eq_false (hkinds kind hkind) part

/-- Where `does` tells what rules do, the first rule that does not decline takes the step. -/
inductive Selects (does : Rule ε → Option Step → Prop) : List (Rule ε) → Step → Prop
  | here {r : Rule ε} {rules : List (Rule ε)} {st : Step} (h : does r (some st)) :
    Selects does (r :: rules) st
  | later {r : Rule ε} {rules : List (Rule ε)} {st : Step} (h : does r none)
    (hmore : Selects does rules st) : Selects does (r :: rules) st

/-- The rule declines, or it takes a step that satisfies `P`. -/
def Rule.Decides (does : Rule ε → Option Step → Prop) (P : Step → Prop) (r : Rule ε) : Prop :=
  does r none ∨ ∃ st, does r (some st) ∧ P st

variable {does does' : Rule ε → Option Step → Prop} {r : Rule ε} {rules : List (Rule ε)}
  {st : Step} {P : Step → Prop}

theorem Selects.map {f : Step → Step} (h : Selects does rules st)
    (hdoes : ∀ r st?, does r st? → does' r (st?.map f)) : Selects does' rules (f st) := by
  induction h with
  | here h => exact .here (hdoes _ _ h)
  | later h _ ih => exact .later (hdoes _ _ h) ih

theorem Rule.decides_of_ite {q : Prop} [Decidable q]
    (h : does r (if q then some st else none)) (hst : q → P st) : r.Decides does P := by
  split at h
  · next hq => exact .inr ⟨st, h, hst hq⟩
  · exact .inl h

theorem Rule.Decides.of_does (h : r.Decides does P)
    (hunique : ∀ st? st?', does r st? → does r st?' → st? = st?') (hst : does r (some st)) :
    P st := by
  rcases h with hnone | ⟨st', hst', hP⟩
  · cases hunique _ _ hst hnone
  · cases hunique _ _ hst hst'
    exact hP

/-- The step that is taken is the step of one of the rules. -/
theorem Selects.exists_rule (h : Selects does rules st) : ∃ r ∈ rules, does r (some st) := by
  induction h with
  | here h => exact ⟨_, List.mem_cons_self, h⟩
  | later _ _ ih =>
    obtain ⟨r, hr, hst⟩ := ih
    exact ⟨r, List.mem_cons_of_mem _ hr, hst⟩

theorem Selects.append_declined {front : List (Rule ε)} (h : Selects does rules st)
    (hfront : ∀ r ∈ front, does r none) : Selects does (front ++ rules) st := by
  induction front with
  | nil => exact h
  | cons r front ih =>
    obtain ⟨hr, hmore⟩ := List.forall_mem_cons.1 hfront
    exact .later hr (ih hmore)

theorem selects_of_decides (h : ∀ r ∈ rules, r.Decides does P) :
    (∀ r ∈ rules, does r none) ∨ ∃ st, Selects does rules st ∧ P st := by
  induction rules with
  | nil => exact .inl (by simp)
  | cons r rules ih =>
    rcases h r List.mem_cons_self with hnone | ⟨st, hsome, hst⟩
    · rcases ih fun r hr => h r (List.mem_cons_of_mem _ hr) with hall | ⟨st, hsel, hst⟩
      · exact .inl (List.forall_mem_cons.2 ⟨hnone, hall⟩)
      · exact .inr ⟨st, .later hnone hsel, hst⟩
    · exact .inr ⟨st, .here hsome, hst⟩

end ModalLexer
