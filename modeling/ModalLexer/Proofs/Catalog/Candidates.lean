import ModalLexer.Proofs.Catalog.Registration

/-! # Candidates by name

Names stand for the grammars that have them, so several names may stand for one grammar. The
canonical name of a grammar belongs to no other grammar of the catalog.
-/

namespace ModalLexer.Catalog

variable {ε : Type} {c : Catalog ε} {info other : GrammarInfo ε} {names : List String}
  {infos : List (GrammarInfo ε)} {name : String} {e : CatalogError}

theorem WellFormed.name_mem_names (h : c.WellFormed) (hinfo : info ∈ c.all) :
    info.name ∈ info.names := by
  cases hnames : info.names with
  | nil => exact absurd hnames (h.names_ne_nil info hinfo)
  | cons first others => simp [GrammarInfo.name, hnames]

/-- Grammars with the same canonical name are the same grammar. -/
theorem WellFormed.name_inj (h : c.WellFormed) (hinfo : info ∈ c.all) (hother : other ∈ c.all)
    (hname : info.name = other.name) : info = other :=
  h.eq_of_common_name hinfo hother (h.name_mem_names hinfo) (hname ▸ h.name_mem_names hother)

/-- Each of the names stands for the grammar in its place. -/
def Resolves (c : Catalog ε) (names : List String) (infos : List (GrammarInfo ε)) : Prop :=
  List.Forall₂ (fun name info => c.find? name = some info) names infos

/-- The name is the first of the names that stands for no grammar. -/
def FirstUnknown (c : Catalog ε) (names : List String) (name : String) : Prop :=
  ∃ before after infos, names = before ++ name :: after ∧ c.Resolves before infos ∧
    c.find? name = none

theorem resolve_eq_ok_iff : c.resolve name = .ok info ↔ c.find? name = some info := by
  rw [resolve]
  cases c.find? name <;> simp

theorem resolve_eq_error_iff :
    c.resolve name = .error e ↔ c.find? name = none ∧ e = .unknownGrammar name := by
  rw [resolve]
  cases c.find? name <;> simp [eq_comm]

theorem candidates_nil : c.candidates [] = .ok c.all := rfl

theorem candidates_of_ne_nil (h : names ≠ []) : c.candidates names = names.mapM c.resolve := by
  simp [candidates, h]

theorem candidates_eq_ok_iff (hnames : names ≠ []) :
    c.candidates names = .ok infos ↔ c.Resolves names infos := by
  rw [candidates_of_ne_nil hnames, mapM_eq_ok_iff, Resolves]
  simp only [resolve_eq_ok_iff]

theorem candidates_eq_error_iff : c.candidates names = .error e ↔
    ∃ name, c.FirstUnknown names name ∧ e = .unknownGrammar name := by
  by_cases hnames : names = []
  · simp [hnames, candidates_nil, FirstUnknown]
  rw [candidates_of_ne_nil hnames, mapM_eq_error_iff]
  simp only [resolve_eq_ok_iff, resolve_eq_error_iff]
  constructor
  · rintro ⟨before, name, after, infos, heq, hbefore, hnone, he⟩
    exact ⟨name, ⟨before, after, infos, heq, hbefore, hnone⟩, he⟩
  · rintro ⟨name, ⟨before, after, infos, heq, hbefore, hnone⟩, he⟩
    exact ⟨before, name, after, infos, heq, hbefore, hnone, he⟩

theorem WellFormed.all_of_resolves (h : c.WellFormed) (hresolves : c.Resolves names infos) :
    ∀ info ∈ infos, info ∈ c.all := by
  induction hresolves with
  | nil => simp
  | cons hfind _ ih =>
    rw [List.forall_mem_cons]
    exact ⟨(h.find?_eq_some_iff.1 hfind).1, ih⟩

theorem WellFormed.mem_all_of_candidates (h : c.WellFormed) (hcall : c.candidates names = .ok infos)
    (hinfo : info ∈ infos) : info ∈ c.all := by
  by_cases hnames : names = []
  · rw [hnames, candidates_nil] at hcall
    cases hcall
    exact hinfo
  · exact h.all_of_resolves ((candidates_eq_ok_iff hnames).1 hcall) info hinfo

/-- A catalog that is not empty always has candidates. -/
theorem candidates_ne_nil (hc : c.all ≠ []) (hcall : c.candidates names = .ok infos) :
    infos ≠ [] := by
  by_cases hnames : names = []
  · rw [hnames, candidates_nil] at hcall
    cases hcall
    exact hc
  · rintro rfl
    exact hnames (List.forall₂_nil_right_iff.1 ((candidates_eq_ok_iff hnames).1 hcall))

end ModalLexer.Catalog
