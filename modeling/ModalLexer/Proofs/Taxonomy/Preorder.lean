import Mathlib.Data.Finset.Card
import ModalLexer.Proofs.Taxonomy.Ancestry
import ModalLexer.Taxonomy.Tree

/-! # The registered types in preorder

Each type stands in front of the types below it, and siblings follow each other by name. As the
types below a type follow it without a gap, the order and the depths of the types determine the
parents: the parent is the last type in front that is less deep.
-/

namespace ModalLexer.TypeArena

open Relation

variable {a : TypeArena} {t u p c d x y : Nat} {ts : List Nat} {q : Option Nat}

theorem wellFounded_children (a : TypeArena) :
    WellFounded fun child t => child ∈ a.children t := by
  refine Subrelation.wf ?_ (measure fun t => a.size - t).wf
  intro child t hchild
  have := lt_of_mem_children hchild
  change a.size - child < a.size - t
  omega

/-- The types at and below `t`, each in front of the types below it. -/
def below (a : TypeArena) (t : Nat) : List Nat :=
  t :: (a.children t).attach.flatMap fun ⟨child, _⟩ => a.below child
termination_by a.size - t
decreasing_by
  rename_i hchild
  have := lt_of_mem_children hchild
  omega

theorem below_eq (a : TypeArena) (t : Nat) :
    a.below t = t :: (a.children t).flatMap a.below := by
  rw [below, List.flatMap_subtype (g := a.below) (by simp), List.unattach_attach]

def preorder (a : TypeArena) : List Nat := a.classRoots.flatMap a.below

/-- The types met on the way up from `t`, without `t`. -/
def ancestors (a : TypeArena) (t : Nat) : Finset Nat :=
  (Finset.range a.size).filter fun u => u ≠ t ∧ a.isA t u

def depth (a : TypeArena) (t : Nat) : Nat := (a.ancestors t).card

theorem mem_ancestors : u ∈ a.ancestors t ↔ u < a.size ∧ u ≠ t ∧ a.isA t u := by
  rw [ancestors, Finset.mem_filter, Finset.mem_range]

theorem depth_of_parent?_eq_none (h : a.parent? t = none) : a.depth t = 0 := by
  rw [depth, Finset.card_eq_zero, Finset.eq_empty_iff_forall_notMem]
  intro u hu
  obtain ⟨-, hne, hisA⟩ := mem_ancestors.1 hu
  exact hne ((isA_of_parent?_eq_none h).1 hisA).symm

theorem depth_of_parent?_eq_some (h : a.parent? t = some p) : a.depth t = a.depth p + 1 := by
  have hlt := lt_of_parent? h
  have hinsert : a.ancestors t = insert p (a.ancestors p) := by
    ext u
    rw [Finset.mem_insert, mem_ancestors, mem_ancestors, isA_of_parent?_eq_some h]
    constructor
    · rintro ⟨hu, hne, heq | hisA⟩
      · exact absurd heq.symm hne
      · rcases eq_or_ne u p with rfl | hup
        · exact .inl rfl
        · exact .inr ⟨hu, hup, hisA⟩
    · rintro (rfl | ⟨hu, hup, hisA⟩)
      · exact ⟨hlt.trans (lt_size_of_parent? h), Nat.ne_of_lt hlt, .inr (isA_refl u)⟩
      · exact ⟨hu, Nat.ne_of_lt ((le_of_isA hisA).trans_lt hlt), .inr hisA⟩
  rw [depth, hinsert, Finset.card_insert_of_notMem fun hp => (mem_ancestors.1 hp).2.1 rfl, depth]

theorem eq_or_exists_parent? (h : a.isA t u) : t = u ∨ ∃ p, a.parent? t = some p ∧ a.isA p u := by
  cases hparent : a.parent? t with
  | none => exact .inl ((isA_of_parent?_eq_none hparent).1 h)
  | some p => exact ((isA_of_parent?_eq_some hparent).1 h).imp_right fun hisA => ⟨p, rfl, hisA⟩

theorem depth_le_of_isA (h : a.isA t u) : a.depth u ≤ a.depth t := by
  induction isA_iff.1 h with
  | refl => exact Nat.le_refl _
  | tail htv hvu ih =>
    have := ih (isA_iff.2 htv)
    rw [depth_of_parent?_eq_some hvu] at this
    omega

theorem eq_of_isA_sibling (hparent : a.parent? c = a.parent? d) (h : a.isA c d) : c = d := by
  obtain heq | ⟨p, hp, hisA⟩ := eq_or_exists_parent? h
  · exact heq
  · have hlt := lt_of_parent? (hparent.symm.trans hp)
    exact absurd (le_of_isA hisA) (Nat.not_le.2 hlt)

/-- No type is below two siblings. -/
theorem eq_of_isA_siblings (hparent : a.parent? c = a.parent? d) (hc : a.isA x c)
    (hd : a.isA x d) : c = d := by
  rcases isA_total hc hd with h | h
  · exact eq_of_isA_sibling hparent h
  · exact (eq_of_isA_sibling hparent.symm h).symm

/-- Siblings that are below two other siblings are these. -/
theorem eq_and_eq_of_siblings (hparent : a.parent? c = a.parent? d) (hne : c ≠ d)
    (hc : a.isA x c) (hd : a.isA y d) (h : a.parent? x = a.parent? y) : x = c ∧ y = d := by
  obtain rfl | ⟨p, hp, hpc⟩ := eq_or_exists_parent? hc
  · obtain rfl | ⟨p, hp, hpd⟩ := eq_or_exists_parent? hd
    · exact ⟨rfl, rfl⟩
    · have hlt := lt_of_parent? (hparent.symm.trans (h.trans hp))
      exact absurd (le_of_isA hpd) (Nat.not_le.2 hlt)
  · obtain rfl | ⟨p', hp', hpd⟩ := eq_or_exists_parent? hd
    · have hlt := lt_of_parent? (hparent.trans (h.symm.trans hp))
      exact absurd (le_of_isA hpc) (Nat.not_le.2 hlt)
    · obtain rfl : p = p' := Option.some.inj (hp.symm.trans (h.trans hp'))
      exact absurd (eq_of_isA_siblings hparent hpc hpd) hne

section WellFormed

variable (h : a.WellFormed)
include h

theorem WellFormed.mem_below_iff (ht : t < a.size) : u ∈ a.below t ↔ u < a.size ∧ a.isA u t := by
  induction t using a.wellFounded_children.induction with
  | _ t ih =>
    rw [below_eq, List.mem_cons, List.mem_flatMap]
    constructor
    · rintro (rfl | ⟨child, hchild, hu⟩)
      · exact ⟨ht, isA_refl u⟩
      · obtain ⟨hlt, hparent⟩ := ((h.children t).mem_iff child).1 hchild
        obtain ⟨hsize, hisA⟩ := (ih child hchild hlt).1 hu
        exact ⟨hsize, isA_trans hisA (isA_iff.2 (.single hparent))⟩
    · rintro ⟨hsize, hisA⟩
      rcases ReflTransGen.cases_tail_iff _ _ _ |>.1 (isA_iff.1 hisA) with rfl | ⟨child, hu, hparent⟩
      · exact .inl rfl
      · have hlt := lt_size_of_parent? hparent
        have hchild := ((h.children t).mem_iff child).2 ⟨hlt, hparent⟩
        exact .inr ⟨child, hchild, (ih child hchild hlt).2 ⟨hsize, isA_iff.2 hu⟩⟩

theorem WellFormed.mem_preorder_iff : u ∈ a.preorder ↔ u < a.size := by
  rw [preorder, List.mem_flatMap]
  constructor
  · rintro ⟨root, hroot, hu⟩
    exact ((h.mem_below_iff ((h.classRoots.mem_iff root).1 hroot).1).1 hu).1
  · intro hu
    have hlt : a.classOf u < a.size := (le_of_isA (isA_classOf u)).trans_lt hu
    exact ⟨a.classOf u, (h.classRoots.mem_iff _).2 ⟨hlt, parent?_classOf u⟩,
      (h.mem_below_iff hlt).2 ⟨hu, isA_classOf u⟩⟩

theorem WellFormed.exists_child_of_mem (hu : u ∈ (a.children t).flatMap a.below) :
    ∃ child, a.parent? child = some t ∧ a.isA u child := by
  obtain ⟨child, hchild, hu⟩ := List.mem_flatMap.1 hu
  obtain ⟨hlt, hparent⟩ := ((h.children t).mem_iff child).1 hchild
  exact ⟨child, hparent, ((h.mem_below_iff hlt).1 hu).2⟩

/-- What holds between all types at and below each sibling, and between siblings, holds between all
types at and below the siblings. -/
theorem WellFormed.pairwise_flatMap_below {R : Nat → Nat → Prop}
    (hts : a.Lists ts fun t => a.parent? t = q) (hbelow : ∀ t ∈ ts, (a.below t).Pairwise R)
    (hacross : ∀ c d x y, a.parent? c = q → a.parent? d = q → a.name c < a.name d →
      a.isA x c → a.isA y d → R x y) : (ts.flatMap a.below).Pairwise R := by
  rw [List.pairwise_flatMap]
  refine ⟨hbelow, hts.ascending.imp_of_mem ?_⟩
  intro c d hc hd hlt x hx y hy
  obtain ⟨hcsize, hcq⟩ := (hts.mem_iff c).1 hc
  obtain ⟨hdsize, hdq⟩ := (hts.mem_iff d).1 hd
  exact hacross c d x y hcq hdq hlt ((h.mem_below_iff hcsize).1 hx).2
    ((h.mem_below_iff hdsize).1 hy).2

/-- A relation holds along the preorder if it holds between a type and those below it, and between
the types below two siblings. -/
theorem WellFormed.pairwise_preorder {R : Nat → Nat → Prop}
    (hdown : ∀ t u, a.isA u t → u ≠ t → R t u)
    (hacross : ∀ c d x y, a.parent? c = a.parent? d → a.name c < a.name d →
      a.isA x c → a.isA y d → R x y) : a.preorder.Pairwise R := by
  have hsiblings : ∀ (q : Option Nat) c d x y, a.parent? c = q → a.parent? d = q →
      a.name c < a.name d → a.isA x c → a.isA y d → R x y := by
    intro q c d x y hc hd
    exact hacross c d x y (hc.trans hd.symm)
  have hbelow : ∀ t, t < a.size → (a.below t).Pairwise R := by
    intro t
    induction t using a.wellFounded_children.induction with
    | _ t ih =>
      intro ht
      rw [below_eq, List.pairwise_cons]
      constructor
      · intro u hu
        obtain ⟨child, hparent, hisA⟩ := h.exists_child_of_mem hu
        refine hdown t u (isA_trans hisA (isA_iff.2 (.single hparent))) ?_
        exact Nat.ne_of_gt ((lt_of_parent? hparent).trans_le (le_of_isA hisA))
      · refine h.pairwise_flatMap_below (h.children t) ?_ (hsiblings (some t))
        intro child hchild
        exact ih child hchild (((h.children t).mem_iff child).1 hchild).1
  exact h.pairwise_flatMap_below h.classRoots
    (fun root hroot => hbelow root ((h.classRoots.mem_iff root).1 hroot).1) (hsiblings none)

theorem WellFormed.nodup_preorder : a.preorder.Nodup := by
  refine h.pairwise_preorder (fun t u _ hne => hne.symm) ?_
  rintro c d x _ hparent hlt hc hd rfl
  rw [eq_of_isA_siblings hparent hc hd] at hlt
  exact lt_irrefl _ hlt

theorem WellFormed.preorder_perm : a.preorder.Perm (List.range a.size) := by
  rw [List.perm_ext_iff_of_nodup h.nodup_preorder List.nodup_range]
  intro u
  rw [h.mem_preorder_iff, List.mem_range]

theorem WellFormed.siblings_preorder :
    a.preorder.Pairwise fun t u => a.parent? t = a.parent? u → a.name t < a.name u := by
  refine h.pairwise_preorder ?_ ?_
  · intro t u hisA hne hparent
    exact absurd (eq_of_isA_sibling hparent.symm hisA) hne
  · intro c d x y hparent hlt hc hd hxy
    have hne : c ≠ d := by
      rintro rfl
      exact lt_irrefl _ hlt
    obtain ⟨rfl, rfl⟩ := eq_and_eq_of_siblings hparent hne hc hd hxy
    exact hlt

/-- The types at and below a type follow each other without a gap. -/
theorem WellFormed.below_isInfix (ht : t < a.size) : a.below t <:+: a.preorder := by
  induction t using ascent_induction (a := a) with
  | root t hnone =>
    exact List.infix_flatMap_of_mem ((h.classRoots.mem_iff t).2 ⟨ht, hnone⟩) a.below
  | child t p hp ih =>
    refine .trans ?_ (ih ((lt_of_parent? hp).trans ht))
    rw [a.below_eq p]
    exact (List.infix_flatMap_of_mem (((h.children p).mem_iff t).2 ⟨ht, hp⟩) a.below).trans
      (List.infix_cons (List.infix_refl _))

/-- The parent of a type is the last type in front of it that is less deep. -/
theorem WellFormed.parent?_eq_find? {front rest : List Nat}
    (hsplit : a.preorder = front ++ t :: rest) :
    a.parent? t = front.reverse.find? fun u => a.depth u < a.depth t := by
  have ht : t < a.size := h.mem_preorder_iff.1 (by simp [hsplit])
  cases hparent : a.parent? t with
  | none =>
    refine (List.find?_eq_none.2 fun u _ => ?_).symm
    simp [depth_of_parent?_eq_none hparent]
  | some p =>
    have hp := (lt_of_parent? hparent).trans ht
    obtain ⟨before, behind, hinfix⟩ := h.below_isInfix hp
    -- Between the parent and the type stand only types below the parent.
    have hmem : t ∈ (a.children p).flatMap a.below := by
      have hbelow := (h.mem_below_iff hp).2 ⟨ht, isA_iff.2 (.single hparent)⟩
      rw [below_eq, List.mem_cons] at hbelow
      exact hbelow.resolve_left (Nat.ne_of_gt (lt_of_parent? hparent))
    obtain ⟨between, tail, hbetween⟩ := List.append_of_mem hmem
    have hwhole : a.preorder = (before ++ p :: between) ++ t :: (tail ++ behind) := by
      rw [← hinfix, below_eq, hbetween]
      simp
    obtain rfl : front = before ++ p :: between := by
      have hnodup := h.nodup_preorder
      rw [hsplit, List.nodup_middle, List.nodup_cons, List.mem_append, not_or] at hnodup
      exact ((List.append_cons_inj_of_notMem hnodup.1.1 hnodup.1.2).1
        (hsplit.symm.trans hwhole)).1
    have hdeeper : ∀ u ∈ between.reverse, ¬ a.depth u < a.depth t := by
      intro u hu
      have hu : u ∈ (a.children p).flatMap a.below := by
        rw [hbetween]
        exact List.mem_append_left _ (List.mem_reverse.1 hu)
      obtain ⟨child, hchild, hisA⟩ := h.exists_child_of_mem hu
      rw [depth_of_parent?_eq_some hparent, ← depth_of_parent?_eq_some hchild, Nat.not_lt]
      exact depth_le_of_isA hisA
    have hless : a.depth p < a.depth t := by
      rw [depth_of_parent?_eq_some hparent]
      exact Nat.lt_succ_self _
    rw [List.reverse_append, List.reverse_cons, List.append_assoc, List.find?_append,
      List.find?_eq_none.2 fun u hu => mt of_decide_eq_true (hdeeper u hu)]
    simp [hless]

end WellFormed

end ModalLexer.TypeArena
